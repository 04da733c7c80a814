import Mathlib.Data.List.Count
import ControlFan.Esp
import ControlFan.Lib.Machine

/-!
# Wifi — one connect attempt and its retries (`connec_wifi/wifi_iot.c`)

`wifi_connect_iot` registers `event_handler`, starts the station and waits for one of two
event bits. The handler counts reconnects in the static `s_retry_num`, which only a GOT_IP
resets: a call that fails leaves the counter where it stopped.

* **`handled_run`** — what a list of events does to the counter, the bits and the driver;
* **`retry_budget_run`** — in every run of calls each ESP_OK follows a GOT_IP of its own
  call, and each ESP_FAIL follows `time_out + 1` disconnects of its own call when no call
  starts with a used-up counter;
* **`budget_of_all_events_iff`** — a call that starts with a non-zero counter and a non-zero
  `time_out` can fail too early, so the condition cannot be dropped.
-/

namespace ControlFan.Wifi

open Machine

/-! ## The event handler -/

inductive WifiEvent where
  | staStart
  | staDisconnected
  | otherWifi (id : Nat)
  | staGotIp
  | staLostIp
  deriving DecidableEq, Repr

inductive WifiCommand where
  | disconnect
  | connect
  deriving DecidableEq, Repr

/-- The statics of `wifi_iot.c` and the two bits of `s_wifi_event_group`. `halted`: the
task waits for bits that never come, or an `ESP_ERROR_CHECK` aborted. -/
structure Station where
  sRetryNum : UInt8 := 0
  timeErr : UInt8 := 0
  myApt : Bool := false
  wifiConnectedBit : Bool := false
  wifiFailBit : Bool := false
  halted : Bool := false
  deriving DecidableEq, Repr

def eventHandler (st : Station) : WifiEvent → Station × List WifiCommand
  | .staStart => (st, [.disconnect, .connect])
  | .staDisconnected =>
    if st.sRetryNum < st.timeErr then
      ({ st with sRetryNum := st.sRetryNum + 1 }, [.connect])
    else ({ st with wifiFailBit := true }, [])
  -- the only reset of the counter
  | .staGotIp => ({ st with sRetryNum := 0, wifiConnectedBit := true }, [])
  | .staLostIp => ({ st with wifiFailBit := true }, [])
  | .otherWifi _ => (st, [])

/-- The event loop calls the handler for what it was registered for: every `WIFI_EVENT`,
but of the `IP_EVENT`s only `IP_EVENT_STA_GOT_IP`. -/
def handle (st : Station) (e : WifiEvent) : Station × List WifiCommand :=
  if e = .staLostIp then (st, []) else eventHandler st e

/-! ## A call -/

/-- What a call meets: whether every `ESP_ERROR_CHECK` passes, the events handled before
the task waits, and those handled from then on. -/
structure Attempt where
  timeOut : UInt8
  checks : Bool := true
  early : List WifiEvent := []
  later : List WifiEvent
  deriving DecidableEq, Repr

/-- A call that returned: its result, the events handled by then, the driver calls made. -/
structure Call where
  timeOut : UInt8
  ret : Int
  seen : List WifiEvent
  commands : List WifiCommand
  deriving DecidableEq, Repr

/-- How many events pass until `xEventGroupWaitBits` finds one of the bits set. -/
def releaseAt (st : Station) : List WifiEvent → Option Nat
  | [] => if st.wifiConnectedBit || st.wifiFailBit then some 0 else none
  | e :: es =>
    if st.wifiConnectedBit || st.wifiFailBit then some 0
    else (releaseAt (handle st e).1 es).map (· + 1)

def Station.begin (st : Station) (timeOut : UInt8) : Station :=
  { st with timeErr := timeOut, myApt := true, wifiConnectedBit := false, wifiFailBit := false }

/-- `wifi_connect_iot`. Events that come between the release of the task and the
unregistering of the handler still count for the statics. -/
def wifiConnectIot (st : Station) (a : Attempt) : Station × List Call :=
  if st.halted then (st, [])
  else if ¬ a.checks then ({ st with halted := true }, [])
  else
    match releaseAt (run handle (st.begin a.timeOut) a.early).1 a.later with
    | none => ({ (run handle (st.begin a.timeOut) (a.early ++ a.later)).1 with halted := true }, [])
    -- both bits may be set by then: the connected one is tested first
    | some k =>
      let seen := a.early ++ a.later.take k
      let (atRelease, commands) := run handle (st.begin a.timeOut) seen
      ((run handle atRelease (a.later.drop k)).1,
        [{ timeOut := a.timeOut
           ret := if atRelease.wifiConnectedBit then espOk else espFail
           seen := seen
           commands := commands }])

/-! ## What a list of events does -/

/-- The effect of handling `evs`, none of them a GOT_IP: the counter moves up by one with
each reconnect, never above `time_err`, and the fail bit comes with the first disconnect
that finds it there. -/
structure Handled (st : Station) (evs : List WifiEvent) (st' : Station)
    (commands : List WifiCommand) : Prop where
  retry_le : st.sRetryNum.toNat ≤ st'.sRetryNum.toNat
  retry_le_max : st'.sRetryNum.toNat ≤ max st.sRetryNum.toNat st.timeErr.toNat
  connects : commands.count .connect + st.sRetryNum.toNat
    = evs.count .staStart + st'.sRetryNum.toNat
  stays : st.wifiFailBit = true → st'.wifiFailBit = true
  retries : st'.wifiFailBit = false →
    st'.sRetryNum.toNat = st.sRetryNum.toNat + evs.count .staDisconnected
  fails : st'.wifiFailBit = true → st.wifiFailBit = true ∨
    (st.timeErr.toNat ≤ st'.sRetryNum.toNat
      ∧ st'.sRetryNum.toNat < st.sRetryNum.toNat + evs.count .staDisconnected)

theorem toNat_succ_of_lt {x y : UInt8} (h : x < y) : (x + 1).toNat = x.toNat + 1 := by
  have hlt : x.toNat < y.toNat := UInt8.lt_iff_toNat_lt.mp h
  have hy : y.toNat < 256 := y.toNat_lt
  rw [UInt8.toNat_add, show (1 : UInt8).toNat = 1 from rfl]
  omega

theorem handle_retry {st : Station} (h : st.sRetryNum < st.timeErr) :
    handle st .staDisconnected = ({ st with sRetryNum := st.sRetryNum + 1 }, [.connect]) := by
  simp [handle, eventHandler, h]

theorem handle_give_up {st : Station} (h : ¬ st.sRetryNum < st.timeErr) :
    handle st .staDisconnected = ({ st with wifiFailBit := true }, []) := by
  simp [handle, eventHandler, h]

theorem Handled.nil (st : Station) : Handled st [] st [] where
  retry_le := Nat.le_refl _
  retry_le_max := Nat.le_max_left _ _
  connects := rfl
  stays := fun h => h
  retries := fun _ => rfl
  fails := fun h => Or.inl h

theorem Handled.cons_retry {st st' : Station} {evs : List WifiEvent}
    {commands : List WifiCommand} (hlt : st.sRetryNum < st.timeErr)
    (h : Handled { st with sRetryNum := st.sRetryNum + 1 } evs st' commands) :
    Handled st (.staDisconnected :: evs) st' (.connect :: commands) := by
  obtain ⟨hle, hmax, hconn, hstays, hretries, hfails⟩ := h
  have hnat : st.sRetryNum.toNat < st.timeErr.toNat := UInt8.lt_iff_toNat_lt.mp hlt
  have hcount : (WifiEvent.staDisconnected :: evs).count .staDisconnected
      = evs.count .staDisconnected + 1 := List.count_cons_self
  have hstart : (WifiEvent.staDisconnected :: evs).count .staStart = evs.count .staStart :=
    List.count_cons_of_ne (by decide)
  have hconnect : (WifiCommand.connect :: commands).count .connect = commands.count .connect + 1 :=
    List.count_cons_self
  simp only [toNat_succ_of_lt hlt] at hle hmax hconn hretries hfails
  refine ⟨by omega, by omega, by omega, hstays, ?_, ?_⟩
  · intro hbit
    have hnum := hretries hbit
    omega
  · intro hbit
    rcases hfails hbit with hset | ⟨hge, hnum⟩
    · exact Or.inl hset
    · exact Or.inr ⟨hge, by omega⟩

/-- A disconnect in front that finds none left: from here on the counter stands still. -/
theorem Handled.cons_give_up {st st' : Station} {evs : List WifiEvent}
    {commands : List WifiCommand} (hnlt : ¬ st.sRetryNum < st.timeErr)
    (h : Handled { st with wifiFailBit := true } evs st' commands) :
    Handled st (.staDisconnected :: evs) st' commands := by
  obtain ⟨hle, hmax, hconn, hstays, -, -⟩ := h
  have hnat : st.timeErr.toNat ≤ st.sRetryNum.toNat := by
    rw [UInt8.lt_iff_toNat_lt] at hnlt
    omega
  have hcount : (WifiEvent.staDisconnected :: evs).count .staDisconnected
      = evs.count .staDisconnected + 1 := List.count_cons_self
  have hstart : (WifiEvent.staDisconnected :: evs).count .staStart = evs.count .staStart :=
    List.count_cons_of_ne (by decide)
  have hset : st'.wifiFailBit = true := hstays rfl
  simp only at hle hmax hconn
  refine ⟨hle, hmax, by omega, fun _ => hset, ?_, ?_⟩
  · intro hbit
    rw [hset] at hbit
    exact absurd hbit (by decide)
  · exact fun _ => Or.inr ⟨by omega, by omega⟩

/-- **The effect of a list of events** without a GOT_IP. Induction on the events; a
disconnect is the only one that looks at the counter. -/
theorem handled_run (st : Station) (evs : List WifiEvent) (hip : .staGotIp ∉ evs) :
    Handled st evs (run handle st evs).1 (run handle st evs).2 := by
  induction evs generalizing st with
  | nil => exact Handled.nil st
  | cons e evs ih =>
    have htail := ih (handle st e).1 (fun hmem => hip (List.mem_cons_of_mem e hmem))
    rw [run_cons]
    cases e with
    | staGotIp => exact absurd List.mem_cons_self hip
    | staLostIp => exact ⟨htail.1, htail.2, htail.3, htail.4, htail.5, htail.6⟩
    | otherWifi id => exact ⟨htail.1, htail.2, htail.3, htail.4, htail.5, htail.6⟩
    | staStart =>
      obtain ⟨hle, hmax, hconn, hstays, hretries, hfails⟩ := htail
      refine ⟨hle, hmax, ?_, hstays, hretries, hfails⟩
      rw [show (handle st .staStart) = (st, [.disconnect, .connect]) from rfl] at hconn ⊢
      rw [List.count_append, List.count_cons_self]
      simp only [show List.count WifiCommand.connect [.disconnect, .connect] = 1 from rfl]
      simp only at hconn
      omega
    | staDisconnected =>
      by_cases hlt : st.sRetryNum < st.timeErr
      · rw [handle_retry hlt] at htail ⊢
        exact Handled.cons_retry hlt htail
      · rw [handle_give_up hlt] at htail ⊢
        exact Handled.cons_give_up hlt htail

theorem wifiConnectedBit_run (st : Station) (evs : List WifiEvent) :
    (run handle st evs).1.wifiConnectedBit = true
      ↔ st.wifiConnectedBit = true ∨ .staGotIp ∈ evs := by
  induction evs generalizing st with
  | nil => simp
  | cons e evs ih =>
    rw [run_cons, ih]
    cases e with
    | staDisconnected =>
      by_cases hlt : st.sRetryNum < st.timeErr
      · simp [handle_retry hlt]
      · simp [handle_give_up hlt]
    | staGotIp => simp [handle, eventHandler]
    | staStart => simp [handle, eventHandler]
    | staLostIp => simp [handle]
    | otherWifi id => simp [handle, eventHandler]

theorem bit_of_releaseAt {st : Station} {evs : List WifiEvent} {k : Nat}
    (h : releaseAt st evs = some k) :
    (run handle st (evs.take k)).1.wifiConnectedBit = true
      ∨ (run handle st (evs.take k)).1.wifiFailBit = true := by
  induction evs generalizing st k with
  | nil =>
    rw [List.take_nil, run_nil]
    by_contra hnone
    simp_all [releaseAt]
  | cons e evs ih =>
    unfold releaseAt at h
    by_cases hbits : (st.wifiConnectedBit || st.wifiFailBit) = true
    · rw [if_pos hbits] at h
      obtain rfl := Option.some.inj h
      simpa using hbits
    · rw [if_neg hbits] at h
      obtain ⟨j, hj, rfl⟩ := Option.map_eq_some_iff.mp h
      rw [List.take_succ_cons, run_cons]
      exact ih hj

theorem exists_releaseAt {st : Station} {evs : List WifiEvent}
    (h : (run handle st evs).1.wifiFailBit = true) :
    ∃ k, releaseAt st evs = some k := by
  induction evs generalizing st with
  | nil =>
    have hset : st.wifiFailBit = true := h
    exact ⟨0, by simp [releaseAt, hset]⟩
  | cons e evs ih =>
    unfold releaseAt
    by_cases hbits : (st.wifiConnectedBit || st.wifiFailBit) = true
    · exact ⟨0, if_pos hbits⟩
    · rw [if_neg hbits]
      rw [run_cons] at h
      obtain ⟨k, hrel⟩ := ih h
      exact ⟨k + 1, by rw [hrel]; rfl⟩

/-! ## The retry budget -/

/-- **What a call that returned has seen**: its commands and its result are those of the
handler over the events up to the release, and one of the bits was set by then. -/
theorem call_spec {st : Station} {a : Attempt} {c : Call} (hc : c ∈ (wifiConnectIot st a).2) :
    c.commands = (run handle (st.begin a.timeOut) c.seen).2
      ∧ c.ret = (if (run handle (st.begin a.timeOut) c.seen).1.wifiConnectedBit
          then espOk else espFail)
      ∧ ((run handle (st.begin a.timeOut) c.seen).1.wifiConnectedBit = true
          ∨ (run handle (st.begin a.timeOut) c.seen).1.wifiFailBit = true) := by
  unfold wifiConnectIot at hc
  by_cases hhalt : st.halted
  · simp [hhalt] at hc
  · by_cases hchecks : a.checks
    · simp only [hhalt, hchecks, if_false, not_true, Bool.false_eq_true] at hc
      cases hrel : releaseAt (run handle (st.begin a.timeOut) a.early).1 a.later with
      | none => simp [hrel] at hc
      | some k =>
        have hbits := bit_of_releaseAt hrel
        rw [show (run handle (run handle (st.begin a.timeOut) a.early).1 (a.later.take k)).1
            = (run handle (st.begin a.timeOut) (a.early ++ a.later.take k)).1 from by
          rw [run_append]] at hbits
        simp only [hrel, List.mem_singleton] at hc
        subst hc
        exact ⟨rfl, rfl, hbits⟩
    · simp [hhalt, hchecks] at hc

theorem gotIp_of_ok {st : Station} {a : Attempt} {c : Call} (hc : c ∈ (wifiConnectIot st a).2)
    (hok : c.ret = espOk) : .staGotIp ∈ c.seen := by
  obtain ⟨-, hret, -⟩ := call_spec hc
  have hbit : (run handle (st.begin a.timeOut) c.seen).1.wifiConnectedBit = true := by
    by_contra hbit
    rw [hret, if_neg hbit] at hok
    exact absurd hok (by decide)
  -- the bit was cleared at the start of this call
  rcases (wifiConnectedBit_run _ _).mp hbit with hbegin | hmem
  · exact absurd hbegin (by simp [Station.begin])
  · exact hmem

theorem handled_of_fail {st : Station} {a : Attempt} {c : Call}
    (hc : c ∈ (wifiConnectIot st a).2) (hfail : c.ret = espFail) :
    ∃ st', st'.wifiFailBit = true ∧ Handled (st.begin a.timeOut) c.seen st' c.commands := by
  obtain ⟨hcmds, hret, hbits⟩ := call_spec hc
  have hnbit : ¬ (run handle (st.begin a.timeOut) c.seen).1.wifiConnectedBit = true := by
    intro hbit
    rw [hret, if_pos hbit] at hfail
    exact absurd hfail (by decide)
  have hip : .staGotIp ∉ c.seen := fun hmem =>
    hnbit ((wifiConnectedBit_run _ _).mpr (Or.inr hmem))
  refine ⟨_, hbits.resolve_left hnbit, ?_⟩
  rw [hcmds]
  exact handled_run _ _ hip

/-- The budget of a call with `time_out = n`: ESP_FAIL only after `n + 1` disconnects, and
`n` reconnects besides the one each STA_START makes. -/
def Call.InBudget (c : Call) : Prop :=
  c.ret = espFail → c.timeOut.toNat + 1 ≤ c.seen.count .staDisconnected
    ∧ c.commands.count .connect = c.seen.count .staStart + c.timeOut.toNat

instance (c : Call) : Decidable c.InBudget := by unfold Call.InBudget; infer_instance

theorem timeOut_of_mem {st : Station} {a : Attempt} {c : Call}
    (hc : c ∈ (wifiConnectIot st a).2) : c.timeOut = a.timeOut := by
  unfold wifiConnectIot at hc
  split at hc
  · simp at hc
  · split at hc
    · simp at hc
    · split at hc
      · simp at hc
      · obtain rfl := List.mem_singleton.mp hc
        rfl

/-- A call that starts with a fresh counter, or that has no retries to give, keeps to its
budget. -/
theorem inBudget_of_fresh {st : Station} {a : Attempt} (hfresh : st.sRetryNum = 0 ∨ a.timeOut = 0)
    {c : Call} (hc : c ∈ (wifiConnectIot st a).2) : c.InBudget := by
  intro hfail
  obtain ⟨st', hset, hhandled⟩ := handled_of_fail hc hfail
  have hconn := hhandled.connects
  have hmax := hhandled.retry_le_max
  have hle := hhandled.retry_le
  have hcount := (hhandled.fails hset).resolve_left (by simp [Station.begin])
  have hs : (st.begin a.timeOut).sRetryNum.toNat = st.sRetryNum.toNat := rfl
  have ht : (st.begin a.timeOut).timeErr.toNat = a.timeOut.toNat := rfl
  have hzero : st.sRetryNum.toNat = 0 ∨ a.timeOut.toNat = 0 := by
    rcases hfresh with h0 | h0
    · exact Or.inl (by rw [h0]; rfl)
    · exact Or.inr (by rw [h0]; rfl)
  rw [timeOut_of_mem hc]
  -- the counter ends at `time_out`, so the disconnects are one more than the reconnects
  have hend : st'.sRetryNum.toNat = st.sRetryNum.toNat + a.timeOut.toNat := by omega
  exact ⟨by omega, by omega⟩

/-- Over every run of calls: an ESP_OK follows a GOT_IP of its own call, and when every
call finds the counter at zero (or allows no retry), an ESP_FAIL follows `time_out + 1`
disconnects of its own call. -/
theorem retry_budget_run (st : Station) (as : List Attempt) :
    AllSteps wifiConnectIot
        (fun st a => ∀ c ∈ (wifiConnectIot st a).2, c.ret = espOk → .staGotIp ∈ c.seen) st as
      ∧ (AllSteps wifiConnectIot (fun st a => st.sRetryNum = 0 ∨ a.timeOut = 0) st as →
          AllSteps wifiConnectIot (fun st a => ∀ c ∈ (wifiConnectIot st a).2, c.InBudget) st as) := by
  constructor
  · exact AllSteps.of_forall (fun st a c hc hok => gotIp_of_ok hc hok) st as
  · exact AllSteps.mono fun st a hfresh c hc => inBudget_of_fresh hfresh hc

/-- Two calls with `time_out = 3` after boot: one that connects, one that fails. -/
theorem retry_budget_run_ok_fail :
    AllSteps wifiConnectIot (fun st a => ∀ c ∈ (wifiConnectIot st a).2, c.InBudget) {}
      [{ timeOut := 3, later := [.staStart, .staDisconnected, .staGotIp] },
        { timeOut := 3, later := .staStart :: List.replicate 4 .staDisconnected }] :=
  (retry_budget_run {} _).2 (by decide)

/-- A failed call with `time_out = 3` leaves the counter at 3: the next call fails at its
first disconnect. -/
theorem second_call_fails_at_once :
    ¬ AllSteps wifiConnectIot (fun st a => ∀ c ∈ (wifiConnectIot st a).2, c.InBudget) {}
      [{ timeOut := 3, later := .staStart :: List.replicate 4 .staDisconnected },
        { timeOut := 3, later := [.staStart, .staDisconnected] }] := by
  decide

/-- The fresh counter cannot be dropped: a running station keeps every call with
`time_out = n` to its budget, whatever the events, only if the counter is zero or `n` is. -/
theorem budget_of_all_events_iff (st : Station) (hrun : st.halted = false) (n : UInt8) :
    (∀ a : Attempt, a.timeOut = n → ∀ c ∈ (wifiConnectIot st a).2, c.InBudget)
      ↔ st.sRetryNum = 0 ∨ n = 0 := by
  constructor
  · intro h
    by_contra hne
    rw [not_or] at hne
    -- `n` disconnects are enough for a counter that starts above zero
    have hspos : 0 < st.sRetryNum.toNat := Nat.pos_of_ne_zero fun h0 =>
      hne.1 (UInt8.toNat_inj.mp h0)
    have hnpos : 0 < n.toNat := Nat.pos_of_ne_zero fun h0 => hne.2 (UInt8.toNat_inj.mp h0)
    let evs : List WifiEvent := List.replicate n.toNat .staDisconnected
    have hip : .staGotIp ∉ evs := by simp [evs]
    have hcount : evs.count .staDisconnected = n.toNat := List.count_replicate_self
    have hhandled := handled_run (st.begin n) evs hip
    have hset : (run handle (st.begin n) evs).1.wifiFailBit = true := by
      by_contra hbit
      have hretries := hhandled.retries (by simpa using hbit)
      have hmax := hhandled.retry_le_max
      have hs : (st.begin n).sRetryNum.toNat = st.sRetryNum.toNat := rfl
      have ht : (st.begin n).timeErr.toNat = n.toNat := rfl
      omega
    -- so the task is released with at most `n` disconnects seen
    obtain ⟨k, hrel⟩ := exists_releaseAt hset
    let a : Attempt := { timeOut := n, later := evs }
    have hcall : (wifiConnectIot st a).2
        = [⟨n, espFail, evs.take k, (run handle (st.begin n) (evs.take k)).2⟩] := by
      have hnbit : ¬ (run handle (st.begin n) (evs.take k)).1.wifiConnectedBit = true := by
        rw [wifiConnectedBit_run]
        rintro (hbegin | hmem)
        · exact absurd hbegin (by simp [Station.begin])
        · exact hip (List.mem_of_mem_take hmem)
      simp [wifiConnectIot, a, hrun, hrel, hnbit]
    have hbudget := h a rfl _ (by rw [hcall]; exact List.mem_singleton_self _) rfl
    have hfew : (evs.take k).count .staDisconnected ≤ n.toNat := by
      rw [← hcount]
      exact (List.take_sublist k evs).count_le _
    have hmany := hbudget.1
    simp only at hmany
    omega
  · rintro hfresh a rfl c hc
    exact inBudget_of_fresh hfresh hc

end ControlFan.Wifi
