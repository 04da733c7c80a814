import ControlFan.Blynk.Effects

/-!
# Blynk — the timers of the client task

Before it waits, `blynk_loop` asks `get_select_timeout` for the ticks to the next deadline; behind the
wait, `handle_timers` calls the handlers of the requests that are due and sends a ping if it is time.
Tick counts wrap around, and so do deadlines. A deadline that wraps to zero reads as no deadline.

* **`getSelectTimeout`**, **`handleTimers`** — the two functions, the second one also as a run of
  the task by **`handleTimers_run`**;
* **`Scheduled`** — a deadline that the signed difference of two tick counts can tell;
* **`selectTimeout_eq`**, **`timerRounds_spec`** — what the loops over the table do;
* **`timers_exact_iff`** — both are exact as long as no deadline is zero and a ping that is due has
  room in the queue.
-/

namespace ControlFan.Blynk

open Machine Slots

/-! ## The code -/

/-- `deadline - now` for two `TickType_t`. -/
def ticksUntil (deadline now : Nat) : Nat := (((deadline : Int) - now) % 2 ^ 32).toNat

/-- `if (!ret || diff < min)`; there is no `min` before the first deadline. -/
def earlier : Option Nat → Nat → Nat
  | none, diff => diff
  | some min, diff => if diff < min then diff else min

/-- The loop of `get_select_timeout` over the slots, and the ping behind it; `none` if there is no
deadline at all. -/
def selectTimeout (now pingDeadline : Nat) : List Awaiting → Option Nat → Option Nat
  | [], min =>
    if pingDeadline % 2 ^ 32 = 0 then min
    else if timerExpired pingDeadline now then some 0
    else some (earlier min (ticksUntil pingDeadline now))
  | a :: as, min =>
    if a.id = 0 ∨ a.deadline % 2 ^ 32 = 0 then selectTimeout now pingDeadline as min
    else if timerExpired a.deadline now then some 0
    else selectTimeout now pingDeadline as (some (earlier min (ticksUntil a.deadline now)))

def getSelectTimeout (c : Client Rest) : Option Nat :=
  selectTimeout c.rest.now c.rest.pingDeadline c.rest.requests.awaiting.slots none

/-- One round of the loop of `handle_timers`. -/
def Client.timerRound (c : Client Rest) (now i : Nat) : Client Rest :=
  match c.rest.requests.expire i now with
  | (_, none) => c
  | (requests, some a) =>
    (c.withRequests requests).invoke a blynkStatusResponseTimeout (.timer now)

/-- The first `n` rounds of the loop. -/
def Client.timerRounds (c : Client Rest) (now n : Nat) : Client Rest :=
  (List.range n).foldl (fun c i => c.timerRound now i) c

/-- The end of `handle_timers`, behind the loop. -/
def Client.handlePing (c : Client Rest) (now : Nat) (answer : CtlWrite) : Client Rest × BlynkErr :=
  if c.rest.pingDeadline % 2 ^ 32 ≠ 0 ∧ timerExpired c.rest.pingDeadline now then
    blynkSendInternal c.advancePing pingSend answer
  else (c, .ok)

/-- `handle_timers`; `elapsed` is how long the handlers take. -/
def handleTimers (c : Client Rest) (elapsed : Nat) (answer : CtlWrite) : Client Rest × BlynkErr :=
  ((c.timerRounds c.rest.now blynkMaxAwaiting).tick elapsed).handlePing c.rest.now answer

theorem timerRounds_succ (c : Client Rest) (now n : Nat) :
    c.timerRounds now (n + 1) = (c.timerRounds now n).timerRound now n := by
  unfold Client.timerRounds
  rw [List.range_succ, List.foldl_append]
  rfl

/-! ## The timers of the task -/

section Run

variable {s : Sys} {ready : Ready} {now : Nat}

theorem Sys.timer_eq (s : Sys) (ready : Ready) (now i : Nat) :
    s.timer ready now i = s.goto (s.client.timerRound now i) (.timers ready now (i + 1)) := by
  unfold Sys.timer Client.timerRound
  rcases s.client.rest.requests.expire_cases i now with hnone | ⟨a, -, -, hsome⟩
  · rw [hnone]
  · rw [hsome]
    rfl

theorem step_task_of_quiet (h : s.client.rest.reports = []) (e : Env) :
    (silent Sys.step s (.task e)).1 = s.blynkLoop e := by
  show s.task e = _
  unfold Sys.task
  rw [h]

/-- Without a state handler nothing is reported. -/
theorem unreported_write {c : Client Rest} (h : c.rest.evtHandler = false) (writer : Writer)
    (ev : StateEvt) :
    ((c.writeState writer ev.state).due ev).rest.evtHandler = false
      ∧ ((c.writeState writer ev.state).due ev).rest.reports = c.rest.reports := by
  have hnone : (c.writeState writer ev.state).rest.evtHandler = false := h
  unfold Client.due
  rw [if_neg (by rw [hnone]; decide)]
  exact ⟨h, rfl⟩

theorem unreported_invoke {c : Client Rest} (h : c.rest.evtHandler = false) (a : Awaiting)
    (status : UInt16) (cause : Cause) :
    (c.invoke a status cause).rest.evtHandler = false
      ∧ (c.invoke a status cause).rest.reports = c.rest.reports := by
  rcases invoke_cases c a status cause with
    ⟨-, heq⟩ | ⟨handler, -, heq | ⟨reason, code, heq⟩ | ⟨-, -, heq⟩⟩
  · rw [heq]
    exact ⟨h, rfl⟩
  · rw [heq]
    exact ⟨h, rfl⟩
  · rw [heq]
    exact unreported_write (c := c.emit _) h .setDisconnected
      { state := .disconnected, reason := reason, code := code }
  · rw [heq]
    exact unreported_write (c := c.emit _) h .setState { state := .authenticated }

theorem unreported_timerRound {c : Client Rest} (h : c.rest.evtHandler = false) (now i : Nat) :
    (c.timerRound now i).rest.evtHandler = false
      ∧ (c.timerRound now i).rest.reports = c.rest.reports := by
  unfold Client.timerRound
  rcases c.rest.requests.expire_cases i now with hnone | ⟨a, -, -, hsome⟩
  · rw [hnone]
    exact ⟨h, rfl⟩
  · rw [hsome]
    have hfreed : (c.withRequests { c.rest.requests with
        awaiting := c.rest.requests.awaiting.modify i fun a => { a with id := 0 } }).rest.evtHandler
        = false := h
    exact unreported_invoke hfreed a _ _

/-- The rounds of the task. Induction on their number. -/
theorem timerRounds_run (hpc : s.pc = .timers ready now 0) (hhandler : s.client.rest.evtHandler = false)
    (hreports : s.client.rest.reports = []) (e : Env) {n : Nat} (hn : n ≤ blynkMaxAwaiting) :
    (run (silent Sys.step) s (List.replicate n (.task e))).1
        = s.goto (s.client.timerRounds now n) (.timers ready now n)
      ∧ (s.client.timerRounds now n).rest.evtHandler = false
      ∧ (s.client.timerRounds now n).rest.reports = [] := by
  induction n with
  | zero =>
    refine ⟨?_, hhandler, hreports⟩
    show s = { s with client := s.client, pc := .timers ready now 0 }
    rw [← hpc]
  | succ n ih =>
    obtain ⟨hrun, hsilent, hquiet⟩ := ih (by omega)
    obtain ⟨hsilent', hquiet'⟩ := unreported_timerRound hsilent now n
    rw [timerRounds_succ]
    refine ⟨?_, hsilent', hquiet'.trans hquiet⟩
    rw [List.replicate_succ', run_append, hrun, run_cons, run_nil, step_task_of_quiet hquiet]
    show (if n < blynkMaxAwaiting then (s.goto _ _).timer ready now n else _) = _
    rw [if_pos (by omega), Sys.timer_eq]
    rfl

/-- Where the task goes with a result of `handle_timers`. -/
def Sys.checkTimers (s : Sys) (ready : Ready) (errno : Int) : Client Rest × BlynkErr → Sys
  | (c, .ok) => s.goto c (.check ready)
  | (c, ret) => s.goto (setDisconnected c ret (if ret = .errno then errno else 0)) .close

theorem Sys.pingTimer_eq (s : Sys) (ready : Ready) (now : Nat) (e : Env) :
    s.pingTimer ready now e
      = s.checkTimers ready e.errno (s.client.handlePing now e.ctlWrite) := by
  unfold Sys.pingTimer Client.handlePing Client.sendOrDisconnect
  split_ifs
  · rcases blynkSendInternal_cases s.client.advancePing pingSend e.ctlWrite with
      ⟨-, heq⟩ | ⟨-, -, heq⟩ | ⟨-, -, heq⟩
    · rw [heq]
      rfl
    · rw [heq]
      rfl
    · rw [heq]
      rfl
  · rfl

/-- `handle_timers` is what the task does between `select` and the check of the state, if no other
thread runs and there is no state handler to call in between. -/
theorem handleTimers_run (hpc : s.pc = .timers ready s.client.rest.now 0)
    (hhandler : s.client.rest.evtHandler = false) (hreports : s.client.rest.reports = []) (elapsed : Nat)
    (e : Env) :
    (run (silent Sys.step) s
        (List.replicate blynkMaxAwaiting (.task e) ++ [.task e, .tick elapsed, .task e])).1
      = s.checkTimers ready e.errno (handleTimers s.client elapsed e.ctlWrite) := by
  obtain ⟨hrun, -, hquiet⟩ := timerRounds_run hpc hhandler hreports e (Nat.le_refl _)
  unfold handleTimers
  generalize s.client.timerRounds s.client.rest.now blynkMaxAwaiting = c at hrun hquiet ⊢
  rw [run_append, hrun, run_cons, step_task_of_quiet hquiet]
  show (run (silent Sys.step) (s.goto c (.ping ready s.client.rest.now)) [.tick elapsed, .task e]).1 = _
  rw [run_cons, run_cons, run_nil, step_task_of_quiet hquiet]
  show (s.goto (c.tick elapsed) (.ping ready s.client.rest.now)).pingTimer ready _ e = _
  rw [Sys.pingTimer_eq]
  unfold Sys.checkTimers
  rfl

end Run

/-! ## Deadlines -/

/-- A deadline that was set at a tick `t`, an interval ahead, and that has not passed for longer
than the signed difference can tell. -/
def Scheduled (deadline now : Nat) : Prop :=
  ∃ t interval, t ≤ now ∧ interval < 2 ^ 31 ∧ deadline = t + interval ∧ now ≤ deadline + 2 ^ 31

theorem timerExpired_iff {deadline now : Nat} (h : Scheduled deadline now) :
    timerExpired deadline now = true ↔ deadline ≤ now := by
  obtain ⟨t, interval, ht, hinterval, rfl, hlate⟩ := h
  unfold timerExpired
  rw [Int.bmod_eq_of_le (by omega) (by omega), decide_eq_true_eq]
  omega

theorem ticksUntil_eq {deadline now : Nat} (h : Scheduled deadline now) (hlater : now < deadline) :
    ticksUntil deadline now = deadline - now := by
  obtain ⟨t, interval, ht, hinterval, rfl, -⟩ := h
  unfold ticksUntil
  rw [Int.emod_eq_of_lt (by omega) (by omega)]
  omega

theorem due_iff {a : Awaiting} {now : Nat} (h : a.id ≠ 0 → Scheduled a.deadline now)
    (hzero : a.id ≠ 0 → a.deadline % 2 ^ 32 ≠ 0) :
    a.due now = true ↔ a.id ≠ 0 ∧ a.deadline ≤ now := by
  unfold Awaiting.due
  rw [Bool.and_eq_true, Bool.and_eq_true, bne_iff_ne, bne_iff_ne, and_assoc]
  refine and_congr_right fun hlive => ?_
  rw [and_iff_right (hzero hlive), timerExpired_iff (h hlive)]

/-! ## The select timeout -/

/-- The ticks that are left to the requests in a list of slots. -/
def remaining (now : Nat) (as : List Awaiting) : List Nat :=
  (as.filter fun a => a.id != 0).map fun a => a.deadline - now

theorem min?_of_zero_mem {ns : List Nat} (h : 0 ∈ ns) : ns.min? = some 0 :=
  List.min?_eq_some_iff.mpr ⟨h, fun _ _ => Nat.zero_le _⟩

theorem min?_earlier (min : Option Nat) (diff : Nat) (ns : List Nat) :
    (min.toList ++ diff :: ns).min? = (earlier min diff :: ns).min? := by
  cases min with
  | none => rfl
  | some m =>
    show (m :: diff :: ns).min? = _
    have hmin : Min.min m diff = earlier (some m) diff := by
      show _ = if diff < m then diff else m
      split_ifs <;> omega
    rw [List.min?_cons', List.min?_cons', List.foldl_cons, hmin]

/-- The result of the loop is the least of what was found before, of what is left to the slots and
to the ping. Induction on the slots; a slot that is due ends it with zero. -/
theorem selectTimeout_eq {now pingDeadline : Nat} (hping : Scheduled pingDeadline now)
    (hzero : pingDeadline % 2 ^ 32 ≠ 0) (as : List Awaiting) (min : Option Nat)
    (hslots : ∀ a ∈ as, a.id ≠ 0 → Scheduled a.deadline now ∧ a.deadline % 2 ^ 32 ≠ 0) :
    selectTimeout now pingDeadline as min
      = (min.toList ++ remaining now as ++ [pingDeadline - now]).min? := by
  induction as generalizing min with
  | nil =>
    unfold selectTimeout
    rw [if_neg hzero, show remaining now [] = [] from rfl, List.append_nil]
    rcases Nat.lt_or_ge now pingDeadline with hlater | hdue
    · rw [if_neg (by rw [timerExpired_iff hping]; omega), ticksUntil_eq hping hlater, min?_earlier]
      rfl
    · rw [if_pos ((timerExpired_iff hping).mpr hdue), min?_of_zero_mem]
      exact List.mem_append_right _ (List.mem_singleton.mpr (by omega))
  | cons a as ih =>
    obtain ⟨hhead, htail⟩ := List.forall_mem_cons.mp hslots
    unfold selectTimeout
    rcases eq_or_ne a.id 0 with hfree | hlive
    · have hskip : remaining now (a :: as) = remaining now as := by
        unfold remaining
        rw [List.filter_cons_of_neg (by simp [hfree])]
      rw [if_pos (Or.inl hfree), ih min htail, hskip]
    · obtain ⟨hsched, hne⟩ := hhead hlive
      have hcons : remaining now (a :: as) = (a.deadline - now) :: remaining now as := by
        unfold remaining
        rw [List.filter_cons_of_pos (by simp [hlive]), List.map_cons]
      rw [if_neg (not_or.mpr ⟨hlive, hne⟩), hcons, List.append_assoc, List.cons_append]
      rcases Nat.lt_or_ge now a.deadline with hlater | hdue
      · rw [if_neg (by rw [timerExpired_iff hsched]; omega), ticksUntil_eq hsched hlater, ih _ htail,
          min?_earlier, List.append_assoc]
        rfl
      · rw [if_pos ((timerExpired_iff hsched).mpr hdue), min?_of_zero_mem]
        exact List.mem_append_right _ (List.mem_cons.mpr (Or.inl (by omega)))

/-! ## The rounds of the timers -/

/-- The call of a handler with the status of a timeout: for which request, and with which data. -/
def Event.timedOut : Event → Option (Nat × ResponseHandler × Nat)
  | .invoked req handler status data (.timer _) =>
    if status = blynkStatusResponseTimeout then some (req, handler, data) else none
  | _ => none

/-- The timeouts of a log. -/
def timeouts (es : List Event) : List (Nat × ResponseHandler × Nat) := inOrder Event.timedOut es

/-- The timeout that a slot in use asks for. -/
def Awaiting.timeout (a : Awaiting) : Option (Nat × ResponseHandler × Nat) :=
  a.handler.map fun handler => (a.req, handler, a.data)

/-- What the timers leave alone: all that a send looks at, the ping and the clock. -/
def Client.untimed (c : Client Rest) : List Ctl × Nat × Options × Nat × Nat :=
  (c.rest.queue, c.rest.nreq, c.rest.opt, c.rest.pingDeadline, c.rest.now)

theorem timeouts_state (writer : Writer) (old new : BlynkState) (es : List Event) :
    timeouts (.state writer old new :: es) = timeouts es := by
  unfold timeouts
  rw [inOrder_cons]
  exact List.append_nil _

/-- The call of a handler that is too late: it may disconnect, and no more. -/
theorem invoke_timeout (c : Client Rest) (a : Awaiting) (now : Nat) :
    (c.invoke a blynkStatusResponseTimeout (.timer now)).rest.requests = c.rest.requests
      ∧ timeouts (c.invoke a blynkStatusResponseTimeout (.timer now)).rest.log
        = timeouts c.rest.log ++ a.timeout.toList
      ∧ (c.invoke a blynkStatusResponseTimeout (.timer now)).untimed = c.untimed := by
  unfold Awaiting.timeout
  rcases invoke_cases c a blynkStatusResponseTimeout (.timer now) with
    ⟨hnone, heq⟩ | ⟨handler, hsome, heq | ⟨reason, code, heq⟩ | ⟨-, hsuccess, -⟩⟩
  · rw [heq, hnone]
    exact ⟨rfl, (List.append_nil _).symm, rfl⟩
  · rw [heq, hsome]
    exact ⟨rfl, inOrder_cons _ _ _, rfl⟩
  · obtain ⟨reports, hdisc⟩ := setDisconnected_eq
      (c.emit (.invoked a.req handler blynkStatusResponseTimeout a.data (.timer now))) reason code
    rw [heq, hsome, hdisc]
    refine ⟨rfl, ?_, rfl⟩
    rw [timeouts_state]
    exact inOrder_cons _ _ _
  · cases hsuccess

/-- A slot behind its round. -/
def Awaiting.expired (now : Nat) (a : Awaiting) : Awaiting :=
  if a.due now then { a with id := 0 } else a

theorem timerRound_spec (c : Client Rest) (now : Nat) {i : Nat} {pre post : List Awaiting}
    {a : Awaiting} (hslots : c.rest.requests.awaiting.slots = pre ++ a :: post)
    (hi : pre.length = i) :
    (c.timerRound now i).rest.requests.awaiting.slots = pre ++ a.expired now :: post
      ∧ timeouts (c.timerRound now i).rest.log
        = timeouts c.rest.log ++ (if a.due now then a.timeout else none).toList
      ∧ (c.timerRound now i).untimed = c.untimed := by
  have hget : c.rest.requests.awaiting.slots[i]? = some a := by
    rw [hslots, ← hi, List.getElem?_append_right (Nat.le_refl _), Nat.sub_self]
    rfl
  unfold Client.timerRound Awaiting.expired
  rcases c.rest.requests.expire_cases i now with hnone | ⟨a', hget', hdue, hsome⟩
  · have hdue : a.due now = false := by
      unfold Requests.expire at hnone
      rw [hget] at hnone
      cases hdue : a.due now with
      | false => rfl
      | true => simp [hdue] at hnone
    rw [hnone, hdue]
    exact ⟨hslots, (List.append_nil _).symm, rfl⟩
  · rw [hget] at hget'
    cases hget'
    rw [hsome, hdue, if_pos rfl, if_pos rfl]
    obtain ⟨hrequests, htimeouts, huntimed⟩ := invoke_timeout (c.withRequests
      { c.rest.requests with
        awaiting := c.rest.requests.awaiting.modify i fun a => { a with id := 0 } }) a now
    refine ⟨?_, htimeouts, huntimed⟩
    simp only [hrequests]
    show c.rest.requests.awaiting.slots.modify i _ = _
    rw [hslots, ← hi, modify_middle]

/-- **The loop of `handle_timers`.** The rounds go through the slots: those that are due are called
in their order and set free. Induction on the number of rounds. -/
theorem timerRounds_spec (c : Client Rest) (now : Nat) {n : Nat}
    (hn : n ≤ c.rest.requests.awaiting.slots.length) :
    (c.timerRounds now n).rest.requests.awaiting.slots
        = (c.rest.requests.awaiting.slots.take n).map (Awaiting.expired now)
          ++ c.rest.requests.awaiting.slots.drop n
      ∧ timeouts (c.timerRounds now n).rest.log
        = timeouts c.rest.log
          ++ ((c.rest.requests.awaiting.slots.take n).filter (·.due now)).filterMap Awaiting.timeout
      ∧ (c.timerRounds now n).untimed = c.untimed := by
  induction n with
  | zero => exact ⟨rfl, (List.append_nil _).symm, rfl⟩
  | succ n ih =>
    obtain ⟨hslots, htimeouts, huntimed⟩ := ih (by omega)
    have hlt : n < c.rest.requests.awaiting.slots.length := by omega
    rw [List.drop_eq_getElem_cons hlt] at hslots
    obtain ⟨hslots', htimeouts', huntimed'⟩ := timerRound_spec (c.timerRounds now n) now (i := n)
      hslots (by rw [List.length_map, List.length_take]; omega)
    rw [timerRounds_succ, List.take_succ_eq_append_getElem hlt]
    refine ⟨?_, ?_, huntimed'.trans huntimed⟩
    · rw [hslots', List.map_append, List.append_assoc]
      rfl
    · rw [htimeouts', htimeouts, List.append_assoc, List.filter_append, List.filterMap_append]
      congr 2
      cases hdue : (c.rest.requests.awaiting.slots[n]).due now with
      | false => simp [hdue]
      | true =>
        cases htimeout : (c.rest.requests.awaiting.slots[n]).timeout <;> simp [hdue, htimeout]

/-! ## Both functions -/

/-- The slot holds a request whose time is over. -/
def Awaiting.overdue (a : Awaiting) (now : Nat) : Bool := a.id != 0 && decide (a.deadline ≤ now)

/-- What the timers should do: the wait ends at the next deadline; the requests that are due get
their timeout and no others; a ping is queued, and the next one scheduled, exactly if it is time; and
nothing that runs is taken for something without a deadline. -/
structure TimersExact (c : Client Rest) (elapsed : Nat) (answer : CtlWrite) : Prop where
  timeout : getSelectTimeout c
    = (remaining c.rest.now c.rest.requests.awaiting.slots
        ++ [c.rest.pingDeadline - c.rest.now]).min?
  invoked : timeouts (handleTimers c elapsed answer).1.rest.log
    = timeouts c.rest.log
      ++ (c.rest.requests.awaiting.slots.filter (·.overdue c.rest.now)).filterMap Awaiting.timeout
  freed : (handleTimers c elapsed answer).1.rest.requests.awaiting.slots
    = c.rest.requests.awaiting.slots.map
        fun a => if a.overdue c.rest.now then { a with id := 0 } else a
  ping : c.rest.pingDeadline ≤ c.rest.now →
    (handleTimers c elapsed answer).1.rest.pingDeadline
        = c.rest.now + elapsed + c.rest.opt.pingTicks
      ∧ (handleTimers c elapsed answer).1.rest.queue
        = c.rest.queue ++ [{ (c.tick elapsed).ctl pingSend with req := c.rest.nreq }]
  noPing : c.rest.now < c.rest.pingDeadline →
    (handleTimers c elapsed answer).1.rest.pingDeadline = c.rest.pingDeadline
      ∧ (handleTimers c elapsed answer).1.rest.queue = c.rest.queue
      ∧ (handleTimers c elapsed answer).2 = .ok
  -- a request, or the ping, if it were alone
  request : ∀ a ∈ c.rest.requests.awaiting.slots, a.id ≠ 0 →
    selectTimeout c.rest.now 0 [a] none ≠ none
  schedule : selectTimeout c.rest.now c.rest.pingDeadline [] none ≠ none

/-- A request or the ping by itself: there is a timeout exactly if there is a deadline. -/
theorem selectTimeout_one_iff {now : Nat} {a : Awaiting} (h : a.id ≠ 0) :
    selectTimeout now 0 [a] none ≠ none ↔ a.deadline % 2 ^ 32 ≠ 0 := by
  unfold selectTimeout
  rcases eq_or_ne (a.deadline % 2 ^ 32) 0 with hzero | hne
  · rw [if_pos (Or.inr hzero)]
    exact iff_of_false (fun hsome => hsome rfl) (fun hne => hne hzero)
  · rw [if_neg (not_or.mpr ⟨h, hne⟩)]
    refine iff_of_true ?_ hne
    split_ifs
    · exact Option.some_ne_none _
    · exact Option.some_ne_none _

theorem selectTimeout_ping_iff {now pingDeadline : Nat} :
    selectTimeout now pingDeadline [] none ≠ none ↔ pingDeadline % 2 ^ 32 ≠ 0 := by
  unfold selectTimeout
  split_ifs with hzero
  · exact iff_of_false (fun hsome => hsome rfl) (fun hne => hne hzero)
  · exact iff_of_true (Option.some_ne_none _) hzero
  · exact iff_of_true (Option.some_ne_none _) hzero

/-- What a send of the task does to the table, the ping and the queue. -/
theorem blynkSendInternal_frame (c : Client Rest) (s : Send) (answer : CtlWrite) :
    (blynkSendInternal c s answer).1.rest.requests = c.rest.requests
      ∧ timeouts (blynkSendInternal c s answer).1.rest.log = timeouts c.rest.log
      ∧ (blynkSendInternal c s answer).1.rest.pingDeadline = c.rest.pingDeadline
      ∧ (blynkSendInternal c s answer).1.rest.queue
        = if c.room then c.rest.queue ++ [{ c.ctl s with req := c.rest.nreq }] else c.rest.queue := by
  have hqueued : timeouts (.queued { c.ctl s with req := c.rest.nreq } :: c.rest.log)
      = timeouts c.rest.log := by
    unfold timeouts
    rw [inOrder_cons]
    exact List.append_nil _
  rcases blynkSendInternal_cases c s answer with ⟨hroom, heq⟩ | ⟨hroom, -, heq⟩ | ⟨hroom, -, heq⟩
  · rw [heq, hroom]
    exact ⟨rfl, rfl, rfl, rfl⟩
  · rw [heq, hroom]
    exact ⟨rfl, hqueued, rfl, rfl⟩
  · obtain ⟨unread, hwake⟩ := wake_eq ((c.enqueue (c.ctl s)).printfN privCtr) answer
    rw [heq, hroom]
    unfold Client.sent
    rw [hwake]
    exact ⟨rfl, hqueued, rfl, rfl⟩

section Untimed

variable {c c' : Client Rest} (h : c'.untimed = c.untimed)

include h

theorem room_of_untimed : c'.room = c.room := by
  unfold Client.room
  rw [show c'.rest.queue = c.rest.queue from congrArg Prod.fst h]

theorem ctl_of_untimed (s : Send) (elapsed : Nat) :
    (c'.tick elapsed).advancePing.ctl s = (c.tick elapsed).ctl s := by
  have hopt : c'.rest.opt = c.rest.opt := congrArg (fun u => u.2.2.1) h
  have hnow : c'.rest.now = c.rest.now := congrArg (fun u => u.2.2.2.2) h
  unfold Client.ctl Client.advancePing Client.tick
  simp only [hopt, hnow]

end Untimed

theorem handleTimers_eq {c : Client Rest} (hping : Scheduled c.rest.pingDeadline c.rest.now)
    (hzero : c.rest.pingDeadline % 2 ^ 32 ≠ 0) (elapsed : Nat) (answer : CtlWrite) :
    handleTimers c elapsed answer
      = if c.rest.pingDeadline ≤ c.rest.now then
          blynkSendInternal
            ((c.timerRounds c.rest.now blynkMaxAwaiting).tick elapsed).advancePing pingSend answer
        else ((c.timerRounds c.rest.now blynkMaxAwaiting).tick elapsed, .ok) := by
  have huntimed := (timerRounds_spec c c.rest.now c.rest.requests.awaiting.hlen.ge).2.2
  have hdeadline : ((c.timerRounds c.rest.now blynkMaxAwaiting).tick elapsed).rest.pingDeadline
      = c.rest.pingDeadline :=
    congrArg (fun u => u.2.2.2.1) huntimed
  unfold handleTimers Client.handlePing
  simp only [hdeadline, timerExpired_iff hping, hzero, ne_eq, not_false_iff, true_and]

/-- A ping that is due and finds the queue full is not sent. -/
theorem handleTimers_full {c : Client Rest} (hping : Scheduled c.rest.pingDeadline c.rest.now)
    (hzero : c.rest.pingDeadline % 2 ^ 32 ≠ 0) (hdue : c.rest.pingDeadline ≤ c.rest.now)
    (hfull : c.room = false) (elapsed : Nat) (answer : CtlWrite) :
    (handleTimers c elapsed answer).1.rest.queue = c.rest.queue := by
  have huntimed := (timerRounds_spec c c.rest.now c.rest.requests.awaiting.hlen.ge).2.2
  rw [handleTimers_eq hping hzero, if_pos hdue]
  generalize c.timerRounds c.rest.now blynkMaxAwaiting = c' at huntimed ⊢
  have hroom : (c'.tick elapsed).advancePing.room = false := (room_of_untimed huntimed).trans hfull
  rw [(blynkSendInternal_frame _ pingSend answer).2.2.2, if_neg (by rw [hroom]; decide)]
  exact congrArg Prod.fst huntimed

section Exact

variable {c : Client Rest} (hslots : ∀ a ∈ c.rest.requests.awaiting.slots, a.id ≠ 0 →
    Scheduled a.deadline c.rest.now ∧ a.deadline % 2 ^ 32 ≠ 0)

include hslots

theorem due_eq_overdue {a : Awaiting} (ha : a ∈ c.rest.requests.awaiting.slots) :
    a.due c.rest.now = a.overdue c.rest.now := by
  rw [Bool.eq_iff_iff, due_iff (fun hlive => (hslots a ha hlive).1) fun hlive => (hslots a ha hlive).2]
  unfold Awaiting.overdue
  rw [Bool.and_eq_true, bne_iff_ne, decide_eq_true_eq]

/-- The whole loop, in terms of the requests that are due. -/
theorem timerRounds_overdue :
    (c.timerRounds c.rest.now blynkMaxAwaiting).rest.requests.awaiting.slots
        = c.rest.requests.awaiting.slots.map
            (fun a => if a.overdue c.rest.now then { a with id := 0 } else a)
      ∧ timeouts (c.timerRounds c.rest.now blynkMaxAwaiting).rest.log
        = timeouts c.rest.log
          ++ (c.rest.requests.awaiting.slots.filter (·.overdue c.rest.now)).filterMap
              Awaiting.timeout := by
  have hlength := c.rest.requests.awaiting.hlen
  obtain ⟨htable, htimeouts, -⟩ := timerRounds_spec c c.rest.now hlength.ge
  rw [List.take_of_length_le hlength.le, List.drop_of_length_le hlength.le, List.append_nil] at htable
  rw [List.take_of_length_le hlength.le] at htimeouts
  rw [htable, htimeouts]
  constructor
  · refine List.map_congr_left fun a ha => ?_
    unfold Awaiting.expired
    rw [due_eq_overdue hslots ha]
  · rw [List.filter_congr fun a ha => due_eq_overdue hslots ha]

theorem timers_exact (hping : Scheduled c.rest.pingDeadline c.rest.now)
    (hzero : c.rest.pingDeadline % 2 ^ 32 ≠ 0)
    (hroom : c.rest.pingDeadline ≤ c.rest.now → c.room = true) (elapsed : Nat) (answer : CtlWrite) :
    TimersExact c elapsed answer := by
  obtain ⟨htable, htimeouts⟩ := timerRounds_overdue hslots
  have huntimed := (timerRounds_spec c c.rest.now c.rest.requests.awaiting.hlen.ge).2.2
  have htimers := handleTimers_eq hping hzero elapsed answer
  generalize c.timerRounds c.rest.now blynkMaxAwaiting = c' at htable htimeouts huntimed htimers
  have hselect : getSelectTimeout c = _ :=
    selectTimeout_eq hping hzero c.rest.requests.awaiting.slots none hslots
  have hrequest : ∀ a ∈ c.rest.requests.awaiting.slots, a.id ≠ 0 →
      selectTimeout c.rest.now 0 [a] none ≠ none := by
    exact fun a ha hlive => (selectTimeout_one_iff hlive).mpr (hslots a ha hlive).2
  have hschedule : selectTimeout c.rest.now c.rest.pingDeadline [] none ≠ none :=
    selectTimeout_ping_iff.mpr hzero
  rcases Nat.lt_or_ge c.rest.now c.rest.pingDeadline with hlater | hdue
  · rw [if_neg (by omega)] at htimers
    refine ⟨hselect, ?_, ?_, fun h => absurd h (by omega), fun _ => ?_, hrequest, hschedule⟩
    · rw [htimers]
      exact htimeouts
    · rw [htimers]
      exact htable
    · rw [htimers]
      exact ⟨congrArg (fun u => u.2.2.2.1) huntimed, congrArg Prod.fst huntimed, rfl⟩
  · rw [if_pos hdue] at htimers
    obtain ⟨hrequests, hlog, hdeadline, hqueue⟩ :=
      blynkSendInternal_frame (c'.tick elapsed).advancePing pingSend answer
    refine ⟨hselect, ?_, ?_, fun _ => ?_, fun h => absurd h (by omega), hrequest, hschedule⟩
    · rw [htimers, hlog]
      exact htimeouts
    · rw [htimers, hrequests]
      exact htable
    · have hold : c'.rest.queue = c.rest.queue := congrArg Prod.fst huntimed
      have hnreq : c'.rest.nreq = c.rest.nreq := congrArg (fun u => u.2.1) huntimed
      have hopt : c'.rest.opt = c.rest.opt := congrArg (fun u => u.2.2.1) huntimed
      have hnow : c'.rest.now = c.rest.now := congrArg (fun u => u.2.2.2.2) huntimed
      have hfree : (c'.tick elapsed).advancePing.room = true :=
        (room_of_untimed huntimed).trans (hroom hdue)
      rw [htimers, hdeadline, hqueue, if_pos hfree, ctl_of_untimed huntimed]
      unfold Client.advancePing Client.tick
      simp only [hold, hnreq, hopt, hnow, and_self]

end Exact

/-- **The timers.** For any tick count, any requests and any ping schedule, `get_select_timeout` and
`handle_timers` go exactly by the deadlines, if and only if none of these is a multiple of
`2 ^ 32` and the queue has room for a ping that is due. -/
theorem timers_exact_iff (c : Client Rest) (elapsed : Nat) (answer : CtlWrite)
    (hslots : ∀ a ∈ c.rest.requests.awaiting.slots, a.id ≠ 0 → Scheduled a.deadline c.rest.now)
    (hping : Scheduled c.rest.pingDeadline c.rest.now) :
    TimersExact c elapsed answer
      ↔ (∀ a ∈ c.rest.requests.awaiting.slots, a.id ≠ 0 → a.deadline % 2 ^ 32 ≠ 0)
        ∧ c.rest.pingDeadline % 2 ^ 32 ≠ 0
        ∧ (c.rest.pingDeadline ≤ c.rest.now → c.room = true) := by
  constructor
  · intro h
    have hzero := selectTimeout_ping_iff.mp h.schedule
    refine ⟨fun a ha hlive => ?_, hzero, fun hdue => ?_⟩
    · exact (selectTimeout_one_iff hlive).mp (h.request a ha hlive)
    · refine Bool.eq_true_of_not_eq_false fun hfull => ?_
      have hqueue := (h.ping hdue).2
      rw [handleTimers_full hping hzero hdue hfull] at hqueue
      exact List.cons_ne_nil _ _ (List.self_eq_append_right.mp hqueue)
  · rintro ⟨hlive, hzero, hroom⟩
    exact timers_exact (fun a ha h => ⟨hslots a ha h, hlive a ha h⟩) hping hzero hroom _ _

/-- A client whose login, sent at the tick `now`, waits for its response. -/
def awaitingLogin (now : Nat) : Client Rest :=
  (run (silent Sys.step) (.init (3, 4)) (.tick now :: firstConnection ++ [.task {}])).1.client

theorem scheduled_login (c : Client Rest) (now elapsed : Nat)
    (hlogin : ∀ a ∈ c.rest.requests.awaiting.slots, a.id ≠ 0 → a.deadline = now + 500)
    (hping : c.rest.pingDeadline = now + 200) (hnow : c.rest.now = now) (helapsed : elapsed ≤ 600) :
    (∀ a ∈ (c.tick elapsed).rest.requests.awaiting.slots, a.id ≠ 0 →
        Scheduled a.deadline (c.tick elapsed).rest.now)
      ∧ Scheduled (c.tick elapsed).rest.pingDeadline (c.tick elapsed).rest.now := by
  constructor
  · intro a ha hlive
    show Scheduled a.deadline (c.rest.now + elapsed)
    rw [hlogin a ha hlive, hnow]
    exact ⟨now, 500, by omega, by omega, rfl, by omega⟩
  · show Scheduled c.rest.pingDeadline (c.rest.now + elapsed)
    rw [hping, hnow]
    exact ⟨now, 200, by omega, by omega, rfl, by omega⟩

theorem timers_exact_login : TimersExact ((awaitingLogin 1000).tick 500) 0 .delivered := by
  obtain ⟨hslots, hping⟩ := scheduled_login (awaitingLogin 1000) 1000 500
    (by decide +kernel) (by decide +kernel) (by decide +kernel) (by decide)
  refine (timers_exact_iff _ 0 .delivered hslots hping).mpr ⟨?_, ?_, ?_⟩
  · decide +kernel
  · decide +kernel
  · decide +kernel

/-- The login is due at the tick `2 ^ 32`: a hundred ticks later there is still no timeout. -/
theorem login_without_timeout :
    (∀ a ∈ ((awaitingLogin (2 ^ 32 - 500)).tick 600).rest.requests.awaiting.slots, a.id ≠ 0 →
        Scheduled a.deadline ((awaitingLogin (2 ^ 32 - 500)).tick 600).rest.now)
      ∧ Scheduled ((awaitingLogin (2 ^ 32 - 500)).tick 600).rest.pingDeadline
        ((awaitingLogin (2 ^ 32 - 500)).tick 600).rest.now
      ∧ ¬ TimersExact ((awaitingLogin (2 ^ 32 - 500)).tick 600) 0 .delivered := by
  obtain ⟨hslots, hping⟩ := scheduled_login (awaitingLogin (2 ^ 32 - 500))
    (2 ^ 32 - 500) 600 (by decide +kernel) (by decide +kernel) (by decide +kernel)
    (by decide)
  refine ⟨hslots, hping, fun h => ?_⟩
  have hinvoked := h.invoked
  revert hinvoked
  decide +kernel

end ControlFan.Blynk
