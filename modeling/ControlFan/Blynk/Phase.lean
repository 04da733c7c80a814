import ControlFan.Blynk.Effects

/-!
# Blynk — the state of the client and the place of its task

`state.state` is written from callbacks, timers, parsers and a dozen exits of `blynk_loop`. Where
the task stands says which of its values are possible, and that is all that the other invariants
need to know about it.

* **`Pc.states`** — the states that are possible at a place;
* **`phase_step`** — every step stays within them.
-/

namespace ControlFan.Blynk

open Machine

def Pc.states : Pc → List BlynkState
  | .absent => [.stopped]
  | .reset => [.connected]
  | .advancePing => [.connected]
  | .login => [.connected]
  | .poll => [.connected, .authenticated]
  | .select _ => [.connected, .authenticated]
  -- a handler that the timers call may disconnect; `check` is behind them
  | .timers _ _ _ => [.disconnected, .connected, .authenticated]
  | .ping _ _ => [.disconnected, .connected, .authenticated]
  | .check _ => [.disconnected, .connected, .authenticated]
  | .readCtl _ => [.connected, .authenticated]
  | .read _ => [.connected, .authenticated]
  | .parse _ _ => [.connected, .authenticated]
  | .write _ => [.connected, .authenticated]
  | _ => [.disconnected]

def Sys.InPhase (s : Sys) : Prop := s.client.state ∈ s.pc.states

theorem Sys.InPhase.state_mem {s : Sys} (hs : s.InPhase) {pc : Pc} (hpc : s.pc = pc) :
    s.client.state ∈ pc.states := by
  rw [← hpc]
  exact hs

theorem state_setDisconnected (c : Client Rest) (reason : BlynkErr) (code : Int) :
    (setDisconnected c reason code).state = .disconnected := by
  obtain ⟨reports, heq⟩ := setDisconnected_eq c reason code
  rw [heq]

theorem state_setState (c : Client Rest) (state : BlynkState) : (setState c state).state = state := by
  obtain ⟨reports, heq⟩ := setState_eq c state
  rw [heq]

/-- A send of the task leaves the state, or fails and disconnects. -/
theorem state_sendOrDisconnect (c : Client Rest) (send : Send) (answer : CtlWrite) (errno : Int) :
    ((c.sendOrDisconnect send answer errno).2 = .ok
        ∧ (c.sendOrDisconnect send answer errno).1.state = c.state)
      ∨ ((c.sendOrDisconnect send answer errno).2 ≠ .ok
        ∧ (c.sendOrDisconnect send answer errno).1.state = .disconnected) := by
  rcases sendOrDisconnect_cases c send answer errno with ⟨-, heq⟩ | ⟨-, -, heq⟩ | ⟨-, -, heq⟩
  · rw [heq]
    exact Or.inr ⟨BlynkErr.noConfusion, state_setDisconnected _ _ _⟩
  · rw [heq]
    exact Or.inr ⟨BlynkErr.noConfusion, state_setDisconnected _ _ _⟩
  · rw [heq]
    refine Or.inl ⟨rfl, ?_⟩
    unfold Client.sent Client.wake
    split_ifs <;> rfl

theorem phase_move {c : Client Rest} {pc pc' : Pc} (h : Move c pc pc') (hc : c.state ∈ pc.states) :
    c.state ∈ pc'.states := by
  cases h with
  | selected => exact List.mem_cons_of_mem _ hc
  | leave ready hstate =>
    rw [hstate]
    exact List.mem_cons_self
  | again ready hstate => exact List.mem_of_ne_of_mem hstate hc
  | handle ready hstate => exact List.mem_of_ne_of_mem hstate hc
  | _ => exact hc

theorem phase_turn {s : Sys} {e : Env} {c : Client Rest} {pc : Pc} (h : Turn s e c pc)
    (hs : s.InPhase) : c.state ∈ pc.states := by
  unfold Sys.InPhase at hs
  cases h with
  | ended => exact hs
  | move hmove => exact phase_move hmove hs
  | unreachable =>
    rw [state_setDisconnected]
    exact List.mem_cons_self
  | fail =>
    rw [state_setDisconnected]
    exact List.mem_cons_self
  | connect hpc =>
    rw [hpc] at hs
    exact hs
  | setConnected =>
    rw [state_setState]
    exact List.mem_cons_self
  | reset hpc =>
    rw [hpc] at hs
    exact hs
  | advancePing hpc =>
    rw [hpc] at hs
    exact hs
  | login hpc =>
    rw [hpc] at hs
    rcases state_sendOrDisconnect s.client (loginSend s.opt.token) e.ctlWrite e.errno with
      ⟨hok, hstate⟩ | ⟨hfail, hstate⟩
    · rw [if_pos hok, hstate]
      exact List.mem_cons.mpr (Or.inl (List.mem_singleton.mp hs))
    · rw [if_neg hfail, hstate]
      exact List.mem_cons_self
  | noId =>
    rw [state_setDisconnected]
    exact List.mem_cons_self
  | takeNew hpc =>
    rw [hpc] at hs
    exact hs
  | takeAnswer hpc =>
    rw [hpc] at hs
    exact hs
  | @expire ready now i requests a hpc =>
    rw [hpc] at hs
    have hstate := (keeps_invoke (s.client.withRequests requests) a blynkStatusResponseTimeout
      (.timer now)).state
    rcases List.mem_cons.mp hstate with hsame | hset
    · rw [hsame]
      exact hs
    · simp only [List.mem_cons, List.not_mem_nil, or_false] at hset
      rcases hset with hset | hset
      · rw [hset]
        exact List.mem_cons_self
      · rw [hset]
        exact List.mem_cons_of_mem _ (List.mem_cons_of_mem _ List.mem_cons_self)
  | ping hpc =>
    rw [hpc] at hs
    rcases state_sendOrDisconnect s.client.advancePing pingSend e.ctlWrite e.errno with
      ⟨hok, hstate⟩ | ⟨hfail, hstate⟩
    · rw [if_pos hok, hstate]
      exact hs
    · rw [if_neg hfail, hstate]
      exact List.mem_cons_self
  | datagram hpc =>
    rw [hpc] at hs
    unfold Client.readDatagram
    split_ifs
    · exact hs
    · exact hs
  | @parse ready d ds hpc =>
    rw [hpc] at hs
    have hstate := (keeps_parse s.client e d).state
    split_ifs with hdisc
    · rw [hdisc]
      exact List.mem_cons_self
    · rcases List.mem_cons.mp hstate with hsame | hset
      · rw [hsame]
        exact hs
      · have hauth := List.mem_of_ne_of_mem hdisc hset
        exact List.mem_cons_of_mem _ hauth
  | write hpc =>
    rw [hpc] at hs
    exact hs

theorem phase_step {s s' : Sys} {i : Input} (h : Step s i s') (hs : s.InPhase) : s'.InPhase := by
  cases h with
  | turn _ hturn _ => exact phase_turn hturn hs
  | start => exact List.mem_cons_self
  | @wake t answer req _ _ =>
    have hstate : (s.client.wake answer).state = s.client.state := by
      unfold Client.wake
      split_ifs <;> rfl
    show (s.client.wake answer).state ∈ s.pc.states
    rw [hstate]
    exact hs
  | _ => exact hs

theorem phase_init (pair : Int × Int) : (Sys.init pair).InPhase := List.mem_cons_self

theorem pc_of_stopped {s : Sys} (hs : s.InPhase) (hstate : s.client.state = .stopped) :
    s.pc = .absent := by
  unfold Sys.InPhase at hs
  rw [hstate] at hs
  cases hpc : s.pc with
  | absent => rfl
  | _ =>
    rw [hpc] at hs
    simp [Pc.states] at hs

end ControlFan.Blynk
