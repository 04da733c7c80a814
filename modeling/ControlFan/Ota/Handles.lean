import ControlFan.Lib.Machine
import ControlFan.Ota.Outcome

/-!
# Ota — what the calls leave alive

`otadrive_updateFirmwareInfo` closes its HTTP client and never cleans it up; the global
`client` is overwritten by the next check. `otadrive_updateFirmware` finishes its session
only behind a download whose data is complete: at `ota_end` the call of
`esp_https_ota_abort` is commented out.

* **`released_iff_run`** — a run leaves at most one client and no session behind exactly
  when no check finds the client of an earlier one alive and no begun session ends at
  `ota_end`.
-/

namespace ControlFan.Ota

open Machine

def World.Released (w : World) : Prop := w.infoClients ≤ 1 ∧ w.sessions = 0

instance (w : World) : Decidable w.Released := by unfold World.Released; infer_instance

/-- The call begins a session and ends at `ota_end`: the image description is not read or
not accepted, the loop gives up, or the data is not complete. -/
def LeavesSession (w : World) (u : UpdateEnv) : Prop :=
  u.lockTaken = true ∧ (∃ s₀, espHttpsOtaBegin u.begin = .ok s₀)
    ∧ (u.session = none
      ∨ ∃ s, u.session = some s
        ∧ ((download u.flash w.begun s u.loop u.iters).2.2 = .otaEnd
          ∨ ∃ s' err, (download u.flash w.begun s u.loop u.iters).2.2 = .done s' err
            ∧ s'.complete = false))

/-- The call releases what it makes, and a check makes its client when none is alive. -/
def Releases (w : World) : Call → Prop
  | .info i => i.lockTaken = true → i.clientInit = true → w.infoClients = 0
  | .update u => ¬ LeavesSession w u

theorem finish_frame (w : World) (u : UpdateEnv) (s : Session) (err : Int) :
    (w.finish u s err).1.infoClients = w.infoClients
      ∧ (w.finish u s err).1.sessions = if s.complete then w.sessions - 1 else w.sessions := by
  unfold World.finish
  by_cases hcomplete : s.complete
  · by_cases hok : err = espOk ∧ (espHttpsOtaFinish u.flash s u.finish).1 = espOk
    · simp [hcomplete, hok]
    · simp [hcomplete, hok]
  · simp [hcomplete, World.otaEnd]

theorem info_released_iff {w : World} (hrun : w.halted = false) (hrel : w.Released) (i : InfoEnv) :
    ((updateFirmwareInfo w i).1.halted = false → (updateFirmwareInfo w i).1.Released)
      ↔ Releases w (.info i) := by
  obtain ⟨hclients, hsessions⟩ := hrel
  unfold updateFirmwareInfo Releases World.Released
  by_cases hlock : i.lockTaken
  · by_cases hinit : i.clientInit
    · simp only [hlock, hinit, not_true, if_false, hrun, hsessions, and_true, true_implies]
      omega
    · simp [hlock, hinit]
  · simp [hlock, hclients, hsessions]

theorem update_released_iff {w : World} (hrun : w.halted = false) (hrel : w.Released)
    (u : UpdateEnv) :
    ((updateFirmware w u).1.halted = false → (updateFirmware w u).1.Released)
      ↔ Releases w (.update u) := by
  obtain ⟨hclients, hsessions⟩ := hrel
  show _ ↔ ¬ LeavesSession w u
  by_cases hlock : u.lockTaken
  · rcases updateFirmware_cases (w := w) hlock with
      ⟨⟨err, hbegin⟩, -, h⟩ | ⟨hbegin, ⟨hsess, h⟩ | ⟨s, w', outs, exit, hsess, hs, hdown, h⟩⟩
    · have hno : ¬ LeavesSession w u := by
        rintro ⟨-, ⟨s₀, hok⟩, -⟩
        simp [hbegin] at hok
      rw [h]
      exact iff_of_true (fun _ => ⟨hclients, hsessions⟩) hno
    · -- the session is begun, and the call ends without it
      rw [h]
      refine iff_of_false (fun hall => ?_) fun hno => hno ⟨hlock, hbegin, Or.inl hsess⟩
      exact absurd (hall hrun).2 (Nat.succ_ne_zero w.sessions)
    · have hspec := download_spec u.flash w.begun (s := s) (by simp [hs]) u.loop u.iters
      rw [hdown] at hspec
      obtain ⟨lock, size, hdrVer, hworld⟩ := hspec.world
      have hclients' : w'.infoClients = w.infoClients := by rw [show w' = _ from hworld]; rfl
      have hsessions' : w'.sessions = w.sessions + 1 := by rw [show w' = _ from hworld]; rfl
      have hrun' : w'.halted = false := by rw [show w' = _ from hworld]; exact hrun
      have hleaves : LeavesSession w u
          ↔ exit = .otaEnd ∨ ∃ s' err, exit = .done s' err ∧ s'.complete = false := by
        unfold LeavesSession
        simp [hlock, hbegin, hsess, hdown]
      rw [hleaves]
      rcases h with ⟨rfl, h⟩ | ⟨rfl, h⟩ | ⟨s', err, rfl, h⟩
      · rw [h]
        exact iff_of_true (fun hret => absurd hret (by simp)) (by simp)
      · rw [h]
        refine iff_of_false (fun hall => ?_) fun hno => hno (Or.inl rfl)
        have hleft : w'.sessions = 0 := (hall hrun').2
        omega
      · obtain ⟨hkeep, hcount⟩ := finish_frame w' u s' err
        rw [h]
        cases hcomplete : s'.complete with
        | true =>
          rw [hcomplete, if_pos rfl] at hcount
          have hzero : (w'.finish u s' err).1.sessions = 0 := by omega
          have hone : (w'.finish u s' err).1.infoClients ≤ 1 := by omega
          refine iff_of_true (fun _ => ⟨hone, hzero⟩) ?_
          rintro (hexit | ⟨s'', err'', hexit, hnot⟩)
          · simp at hexit
          · obtain ⟨rfl, rfl⟩ := LoopExit.done.inj hexit
            exact absurd (hcomplete.symm.trans hnot) (by decide)
        | false =>
          rw [hcomplete, if_neg (by decide)] at hcount
          refine iff_of_false (fun hall => ?_) fun hno => hno (Or.inr ⟨s', err, rfl, hcomplete⟩)
          have hhalt : (w'.finish u s' err).1.halted = false := by
            simpa [World.finish, hcomplete, World.otaEnd] using hrun'
          have hleft : (w'.finish u s' err).1.sessions = 0 := (hall hhalt).2
          omega
  · have hno : ¬ LeavesSession w u := fun hl => hlock hl.1
    rw [show updateFirmware w u = (w, [.result {}]) by simp [updateFirmware, hlock]]
    exact iff_of_true (fun _ => ⟨hclients, hsessions⟩) hno

/-- A run from boot has everything released after every call that returns if and only if
each call releases what it makes. -/
theorem released_iff_run (cs : List Call) :
    AllSteps World.step (fun w c => (w.step c).1.halted = false → (w.step c).1.Released) {} cs
      ↔ AllSteps World.step (fun w c => w.halted = false → Releases w c) {} cs := by
  refine allSteps_iff_of_inv (I := fun w : World => w.halted = false → w.Released) (fun _ _ _ h => h) ?_
    (fun _ => by decide)
  intro w c hinv
  unfold World.step
  cases hrun : w.halted with
  | true => simp [hrun]
  | false =>
    rw [if_neg (by decide)]
    cases c with
    | info i => simpa using info_released_iff hrun (hinv hrun) i
    | update u => simpa using update_released_iff hrun (hinv hrun) u

/-- Two polls: the client of the first is still alive when the second makes its own. -/
theorem second_poll_leaks_client :
    ¬ AllSteps World.step (fun w c => (w.step c).1.halted = false → (w.step c).1.Released) {}
        [.info {}, .info {}] := by
  decide

end ControlFan.Ota
