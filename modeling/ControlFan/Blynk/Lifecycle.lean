import ControlFan.Blynk.Phase
import ControlFan.Blynk.Server

/-!
# Blynk — the life of the client task

`blynk_start` creates the client task and refuses a second one as long as `state.state` is not
`BLYNK_STATE_STOPPED`. The state is written before the task runs for the first time, and nothing
writes `BLYNK_STATE_STOPPED` again: the one exit of `blynk_task`, behind a `blynk_loop` that finds no
port in its options, leaves the state that says that a task is alive.

* **`Sys.startResult`** — what `blynk_start` returns;
* **`Sys.LifeAgrees`** — the state, the result of `blynk_start` and the life of the task agree;
* **`pc_step_terminated`** — the only step that ends the task;
* **`life_agrees_run`** — they agree in a whole run exactly if that step is never taken.
-/

namespace ControlFan.Blynk

open CString Machine

/-! ## The task and its state -/

/-- The client task exists: it is created and has not deleted itself. -/
def Sys.alive (s : Sys) : Bool := s.pc != .absent && s.pc != .terminated

/-- The result of `blynk_start`; `created`: `xTaskCreate` succeeds. -/
def Sys.startResult (s : Sys) (created : Bool) : BlynkErr :=
  if s.client.state ≠ .stopped then .running else if created then .ok else .mem

/-- The state says whether a task is alive, and `blynk_start` goes by it. -/
structure Sys.LifeAgrees (s : Sys) : Prop where
  stopped : s.client.state = .stopped ↔ s.alive = false
  running : ∀ created, s.startResult created = .running ↔ s.alive = true
  restart : s.alive = false → ∀ t, s.startResult true = .ok ∧ (s.blynkStart t true).alive = true

theorem alive_eq_false {s : Sys} : s.alive = false ↔ s.pc = .absent ∨ s.pc = .terminated := by
  unfold Sys.alive
  rw [Bool.and_eq_false_iff, bne_eq_false_iff_eq, bne_eq_false_iff_eq]

theorem startResult_running (s : Sys) (created : Bool) :
    s.startResult created = .running ↔ s.client.state ≠ .stopped := by
  unfold Sys.startResult
  rcases eq_or_ne s.client.state .stopped with hstate | hstate
  · rw [if_neg (not_not.mpr hstate)]
    cases created <;> simp [hstate]
  · simp [hstate]

theorem blynkStart_of_stopped {s : Sys} (hstate : s.client.state = .stopped) (t : Nat) :
    s.startResult true = .ok ∧ (s.blynkStart t true).pc = .entry := by
  unfold Sys.startResult Sys.blynkStart
  rw [if_neg (not_not.mpr hstate), if_neg (not_not.mpr hstate), if_pos rfl]
  refine ⟨rfl, ?_⟩
  simp only [if_true]
  split_ifs <;> rfl

theorem stopped_iff {s : Sys} (hs : s.InPhase) : s.client.state = .stopped ↔ s.pc = .absent := by
  refine ⟨pc_of_stopped hs, fun hpc => ?_⟩
  exact List.mem_singleton.mp (hs.state_mem hpc)

/-- A task that has ended is the only thing the state can be wrong about. -/
theorem lifeAgrees_iff {s : Sys} (hs : s.InPhase) : s.LifeAgrees ↔ s.pc ≠ .terminated := by
  constructor
  · intro h hpc
    have habsent := (stopped_iff hs).mp (h.stopped.mpr (alive_eq_false.mpr (Or.inr hpc)))
    rw [hpc] at habsent
    cases habsent
  · intro hpc
    have hstopped : s.client.state = .stopped ↔ s.alive = false := by
      rw [stopped_iff hs, alive_eq_false, or_iff_left hpc]
    refine ⟨hstopped, fun created => ?_, fun halive t => ?_⟩
    · rw [startResult_running, ← Bool.not_eq_false]
      exact not_congr hstopped
    · obtain ⟨hresult, hentry⟩ := blynkStart_of_stopped (hstopped.mpr halive) t
      refine ⟨hresult, ?_⟩
      unfold Sys.alive
      rw [hentry]
      rfl

/-! ## The end of the task -/

/-- If the step enters `blynk_loop`, the options have a port. -/
def EntersWithPort (s : Sys) : Input → Prop
  | .task _ =>
    s.client.rest.reports = [] → s.pc = .entry → s.client.rest.opt.hasPort = true
  | _ => True

/-- The task is absent or has ended only if it was so before, or ends at the entry of `blynk_loop`. -/
theorem turn_ended {s : Sys} {e : Env} {c : Client Rest} {pc : Pc} (h : Turn s e c pc)
    (hpc : pc = .absent ∨ pc = .terminated) : s.pc = pc ∨ s.pc = .entry ∧ pc = .terminated := by
  cases h with
  | ended => exact Or.inl rfl
  | move hmove =>
    cases hentry : s.pc with
    | entry =>
      rw [hentry] at hmove
      rcases hpc with rfl | rfl
      · cases hmove
      · exact Or.inr ⟨rfl, rfl⟩
    | _ =>
      rw [hentry] at hmove
      rcases hpc with rfl | rfl <;> cases hmove
  | login => split_ifs at hpc <;> simp at hpc
  | ping => split_ifs at hpc <;> simp at hpc
  | parse => split_ifs at hpc <;> simp at hpc
  | _ => simp at hpc

theorem pc_step_thread {s : Sys} (hpc : s.pc ≠ .terminated) {i : Input} (hi : ∀ e, i ≠ .task e) :
    (s.step i).pc ≠ .terminated := by
  have hstep := s.step_step i
  generalize s.step i = s' at hstep
  cases hstep with
  | report e => exact absurd rfl (hi e)
  | @turn e => exact absurd rfl (hi e)
  | start => exact Pc.noConfusion
  | _ => exact hpc

/-- **The only step that ends the task** enters `blynk_loop` without a port. -/
theorem pc_step_terminated {s : Sys} (hpc : s.pc ≠ .terminated) (i : Input) :
    (s.step i).pc ≠ .terminated ↔ EntersWithPort s i := by
  cases i with
  | task e =>
    show (s.task e).pc ≠ _ ↔ (_ → _ → _)
    cases hreports : s.client.rest.reports with
    | cons ev evs =>
      have htask : (s.task e).pc = s.pc := by
        unfold Sys.task
        rw [hreports]
      rw [htask]
      simp [hpc]
    | nil =>
      have htask : s.task e = s.blynkLoop e := by
        unfold Sys.task
        rw [hreports]
      rw [htask]
      rcases eq_or_ne s.pc .entry with hentry | hentry
      · unfold Sys.blynkLoop
        rw [hentry]
        simp only
        split_ifs with hport
        · simp [hport]
        · simp [hport]
      · refine iff_of_true (fun hend => ?_) fun _ h => absurd h hentry
        obtain ⟨c, pc, opt, hturn, heq⟩ := s.blynkLoop_turn e
        rw [heq] at hend
        change pc = .terminated at hend
        rcases turn_ended hturn (Or.inr hend) with hsame | ⟨hat, -⟩
        · exact hpc (hsame.trans hend)
        · exact hentry hat
  | _ =>
    exact iff_of_true (pc_step_thread hpc fun e => Input.noConfusion) trivial

/-- **The life of the task.** In a run of the whole system the state says after every step whether
the client task is alive, and `blynk_start` refuses to start exactly if it is, if and only if
`blynk_loop` never starts over with options that have no port. -/
theorem life_agrees_run (pair : Int × Int) (is : List Input) :
    AllSteps (silent Sys.step) (fun s i => (s.step i).LifeAgrees) (Sys.init pair) is
      ↔ AllSteps (silent Sys.step) EntersWithPort (Sys.init pair) is := by
  refine allSteps_iff_of_inv (I := fun s => s.InPhase ∧ s.pc ≠ .terminated) ?_ ?_
    ⟨phase_init pair, Pc.noConfusion⟩
  · intro s i hs hlife
    have hphase := phase_step (s.step_step i) hs.1
    exact ⟨hphase, (lifeAgrees_iff hphase).mp hlife⟩
  · intro s i hs
    rw [lifeAgrees_iff (phase_step (s.step_step i) hs.1), pc_step_terminated hs.2]

/-- The task ends, and no other can be started. -/
theorem dead_task_runs :
    ¬ AllSteps (silent Sys.step) (fun s i => (s.step i).LifeAgrees) (Sys.init (3, 4))
      [.call 0 (.setOptions hiddenPort), .call 0 (.start true), .task {}] := by
  intro h
  have hrunning := (h.2.2.1.running true).mp (by decide +kernel)
  revert hrunning
  decide +kernel

end ControlFan.Blynk
