import ControlFan.Blynk.Task

/-!
# Blynk — what a step of the client can do

The steps of the system, sorted by what they do and no longer by where they stand in the source.
The invariants of the modules that follow are shown for each kind of step, and nothing else looks
into the functions of the task again.

* **`session`** — the part of a log that belongs to the current connection;
* **`Keeps`** — what callbacks, sends of the task and parsers do at most, with **`keeps_parse`** for
  all that a byte from the server can start;
* **`setDisconnected_eq`**, **`invoke_cases`**, **`sendOrDisconnect_cases`**, **`parse_cases`**,
  **`handleMessage_cases`** — the outcomes of these functions;
* **`Turn`** — what one step of `blynk_loop` can do;
* **`Step`** — what one step of the system can do, by **`Sys.step_step`**.
-/

namespace ControlFan.Blynk

open CString Machine Slots

/-! ## Connections -/

def Event.isConnected : Event → Bool
  | .connected => true
  | _ => false

/-- The events of the current connection, newest first. -/
def session (es : List Event) : List Event := since Event.isConnected es

theorem session_cons {e : Event} (h : e.isConnected = false) (es : List Event) :
    session (e :: es) = e :: session es :=
  since_cons h es

theorem mem_of_mem_session {e : Event} {es : List Event} (h : e ∈ session es) : e ∈ es :=
  (List.takeWhile_prefix _).subset h

theorem session_connected (es : List Event) : session (.connected :: es) = [] := since_mark rfl es

/-! ## Writes of the state -/

section Writes

variable (c : Client Rest)

theorem due_eq (ev : StateEvt) :
    ∃ reports, c.due ev = { c with rest := { c.rest with reports := reports } } := by
  unfold Client.due
  split_ifs
  · exact ⟨_, rfl⟩
  · exact ⟨c.rest.reports, rfl⟩

theorem setState_eq (state : BlynkState) :
    ∃ reports, setState c state
      = { c with
          state := state
          rest :=
            { c.rest with
              log := .state .setState c.state state :: c.rest.log, reports := reports } } :=
  due_eq (c.writeState .setState state) _

theorem setDisconnected_eq (reason : BlynkErr) (code : Int) :
    ∃ reports, setDisconnected c reason code
      = { c with
          state := .disconnected
          rest :=
            { c.rest with
              log := .state .setDisconnected c.state .disconnected :: c.rest.log
              reports := reports } } :=
  due_eq (c.writeState .setDisconnected .disconnected) _

/-- The three things that a response handler can do to the client. -/
theorem invoke_cases (a : Awaiting) (status : UInt16) (cause : Cause) :
    (a.handler = none ∧ c.invoke a status cause = c)
      ∨ ∃ handler, a.handler = some handler
        ∧ (c.invoke a status cause = c.emit (.invoked a.req handler status a.data cause)
          ∨ (∃ reason code, c.invoke a status cause
              = setDisconnected (c.emit (.invoked a.req handler status a.data cause)) reason code)
          ∨ handler = .authCb ∧ status = blynkStatusSuccess
            ∧ c.invoke a status cause
              = setState (c.emit (.invoked a.req handler status a.data cause)) .authenticated) := by
  unfold Client.invoke
  cases hhandler : a.handler with
  | none => exact Or.inl ⟨rfl, rfl⟩
  | some handler =>
    refine Or.inr ⟨handler, rfl, ?_⟩
    cases handler with
    | authCb =>
      unfold authCb
      split_ifs with hstatus htimeout
      · exact Or.inr (Or.inl ⟨_, _, rfl⟩)
      · exact Or.inr (Or.inl ⟨_, _, rfl⟩)
      · exact Or.inr (Or.inr ⟨rfl, not_not.mp hstatus, rfl⟩)
    | pingCb =>
      unfold pingCb
      split_ifs with hstatus htimeout
      · exact Or.inr (Or.inl ⟨_, _, rfl⟩)
      · exact Or.inr (Or.inl ⟨_, _, rfl⟩)
      · exact Or.inl rfl
    | app f => exact Or.inl rfl
    | wild addr => exact Or.inl rfl

/-- What every call of a response handler keeps. -/
theorem foldl_invoke {P : Client Rest → Prop} {status : UInt16}
    (h : ∀ c a, P c → P (c.invoke a status .message)) (called : List Awaiting) {c : Client Rest}
    (hc : P c) : P (called.foldl (fun c a => c.invoke a status .message) c) := by
  induction called generalizing c with
  | nil => exact hc
  | cons a called ih => exact ih (h c a hc)

/-! ## Sends -/

theorem wake_eq (answer : CtlWrite) :
    ∃ unread, c.wake answer = { c with rest := { c.rest with unread := unread } } := by
  unfold Client.wake
  split_ifs
  · exact ⟨_, rfl⟩
  · exact ⟨c.rest.unread, rfl⟩

/-- The client behind a send of the task that found room in the queue. -/
def Client.sent (s : Send) (answer : CtlWrite) : Client Rest :=
  ((((c.enqueue (c.ctl s)).printfN privCtr)).wake answer).printfN privCtr2

theorem blynkSendInternal_cases (s : Send) (answer : CtlWrite) :
    (c.room = false ∧ blynkSendInternal c s answer = (c, .mem))
      ∨ (c.room = true ∧ answer = .refused
        ∧ blynkSendInternal c s answer = ((c.enqueue (c.ctl s)).printfN privCtr, .errno))
      ∨ (c.room = true ∧ answer ≠ .refused ∧ blynkSendInternal c s answer = (c.sent s answer, .ok)) := by
  unfold blynkSendInternal
  cases hroom : c.room with
  | false => exact Or.inl ⟨rfl, rfl⟩
  | true =>
    rcases eq_or_ne answer .refused with hrefused | hrefused
    · refine Or.inr (Or.inl ⟨rfl, hrefused, ?_⟩)
      simp only [hrefused, if_true]
    · refine Or.inr (Or.inr ⟨rfl, hrefused, ?_⟩)
      simp only [hrefused, if_true, if_false]
      rfl

theorem sendOrDisconnect_cases (s : Send) (answer : CtlWrite) (errno : Int) :
    (c.room = false ∧ c.sendOrDisconnect s answer errno = (setDisconnected c .mem 0, .mem))
      ∨ (c.room = true ∧ answer = .refused ∧ c.sendOrDisconnect s answer errno
        = (setDisconnected ((c.enqueue (c.ctl s)).printfN privCtr) .errno errno, .errno))
      ∨ (c.room = true ∧ answer ≠ .refused
        ∧ c.sendOrDisconnect s answer errno = (c.sent s answer, .ok)) := by
  unfold Client.sendOrDisconnect
  rcases blynkSendInternal_cases c s answer with
    ⟨hroom, heq⟩ | ⟨hroom, hrefused, heq⟩ | ⟨hroom, hanswer, heq⟩
  · rw [heq]
    exact Or.inl ⟨hroom, rfl⟩
  · rw [heq]
    exact Or.inr (Or.inl ⟨hroom, hrefused, rfl⟩)
  · rw [heq]
    exact Or.inr (Or.inr ⟨hroom, hanswer, rfl⟩)

end Writes

/-! ## Messages -/

section Messages

variable (e : Env) (c : Client Rest)

/-- The client with a message in the log, and with the payload as `parse_args` leaves it. -/
def Client.receive (m : Message) : Client Rest :=
  { c.emit (.received c.message) with message := m }

/-- The client with a response in the log and its slots set free. -/
def Client.answer : Client Rest :=
  { c.emit (.received c.message) with
    rest :=
      { (c.emit (.received c.message)).rest with
        requests := (c.rest.requests.answer c.message.id).1 } }

theorem handleMessage_response (hcmd : c.message.command = blynkCmdResponse) :
    handleMessage e c
      = (c.rest.requests.answer c.message.id).2.foldl
          (fun c' a => c'.invoke a c.message.len .message) c.answer :=
  if_pos hcmd

variable {c}

section Hardware

variable (hcmd : c.message.command = blynkCmdHardware) {name : List UInt8}
  {args : List (List UInt8)} (hargs : c.message.args = name :: args)

include hcmd hargs in
theorem handleMessage_hardware :
    handleMessage e c
      = match findHandler c.rest.handlers name with
        | some slot =>
          (c.receive c.message.terminated).emit
            (.command (slot.handler.getD 0) c.message.id name args slot.data)
        | none =>
          ((c.receive c.message.terminated).sendOrDisconnect
            (responseSend c.message.id blynkStatusIllegalCommand) e.ctlWrite e.errno).1 := by
  have hresp : ¬ c.message.command = blynkCmdResponse := by
    rw [hcmd]
    decide
  refine ((if_neg hresp).trans (if_pos hcmd)).trans ?_
  rw [hargs]
  rfl

include hcmd hargs in
theorem handleMessage_command {slot : HandlerSlot}
    (hfind : findHandler c.rest.handlers name = some slot) :
    handleMessage e c
      = (c.receive c.message.terminated).emit
          (.command (slot.handler.getD 0) c.message.id name args slot.data) := by
  rw [handleMessage_hardware e hcmd hargs, hfind]

include hcmd hargs in
theorem handleMessage_illegal (hfind : findHandler c.rest.handlers name = none) :
    handleMessage e c
      = ((c.receive c.message.terminated).sendOrDisconnect
          (responseSend c.message.id blynkStatusIllegalCommand) e.ctlWrite e.errno).1 := by
  rw [handleMessage_hardware e hcmd hargs, hfind]

end Hardware

theorem handleMessage_other (hcmd : c.message.command ≠ blynkCmdResponse)
    (hother : c.message.command ≠ blynkCmdHardware ∨ c.message.args = []) :
    ∃ m, handleMessage e c = c.receive m := by
  rcases eq_or_ne c.message.command blynkCmdHardware with hhw | hhw
  · refine ⟨c.message.terminated, ((if_neg hcmd).trans (if_pos hhw)).trans ?_⟩
    rw [hother.resolve_left (not_not.mpr hhw)]
    rfl
  · exact ⟨c.message, (if_neg hcmd).trans (if_neg hhw)⟩

theorem handleMessage_cases :
    handleMessage e c
        = (c.rest.requests.answer c.message.id).2.foldl
          (fun c' a => c'.invoke a c.message.len .message) c.answer
          ∧ c.message.command = blynkCmdResponse
      ∨ ∃ m, handleMessage e c = c.receive m
        ∨ (∃ handler id name args data,
          handleMessage e c = (c.receive m).emit (.command handler id name args data))
        ∨ ∃ id status, handleMessage e c
          = ((c.receive m).sendOrDisconnect (responseSend id status) e.ctlWrite e.errno).1 := by
  rcases eq_or_ne c.message.command blynkCmdResponse with hcmd | hcmd
  · exact Or.inl ⟨handleMessage_response e c hcmd, hcmd⟩
  right
  rcases eq_or_ne c.message.command blynkCmdHardware with hhw | hhw
  · cases hargs : c.message.args with
    | nil =>
      obtain ⟨m, hm⟩ := handleMessage_other e hcmd (Or.inr hargs)
      exact ⟨m, Or.inl hm⟩
    | cons name args =>
      refine ⟨c.message.terminated, Or.inr ?_⟩
      cases hfind : findHandler c.rest.handlers name with
      | none => exact Or.inr ⟨_, _, handleMessage_illegal e hhw hargs hfind⟩
      | some slot => exact Or.inl ⟨_, _, _, _, _, handleMessage_command e hhw hargs hfind⟩
  · obtain ⟨m, hm⟩ := handleMessage_other e hcmd (Or.inl hhw)
    exact ⟨m, Or.inl hm⟩

end Messages

/-! ## What callbacks, sends and parsers leave alone -/

/-- The events of the loop itself: no callback, no send and no parser has them. -/
def Event.ofLoop : Event → Bool
  | .connected => true
  | .taken _ => true
  | .frame _ _ => true
  | .sent _ => true
  | _ => false

/-- The part of the client that callbacks, sends and parsers leave alone. -/
structure Fixed where
  pingDeadline : Nat
  wrBuf : List UInt8
  bufTotal : Nat
  bufSent : Nat
  ctl1 : Int
  handlers : Handlers
  opt : Options
  evtHandler : Bool
  pair : Int × Int
  now : Nat
  done : List Event

def Client.fixed (c : Client Rest) : Fixed where
  pingDeadline := c.rest.pingDeadline
  wrBuf := c.rest.wrBuf
  bufTotal := c.rest.bufTotal
  bufSent := c.rest.bufSent
  ctl1 := c.rest.ctl1
  handlers := c.rest.handlers
  opt := c.rest.opt
  evtHandler := c.rest.evtHandler
  pair := c.rest.pair
  now := c.rest.now
  done := c.rest.log.filter Event.ofLoop

/-- The message is one that `blynk_send_with_callback_v` has accepted: neither a response, nor the
client's own login or ping. -/
def Ctl.isCommand (ctl : Ctl) : Bool :=
  ctl.message.command != blynkCmdResponse && ctl.handler != some .authCb
    && ctl.handler != some .pingCb

/-- What callbacks, sends of the task and parsers do at most: log events that are not those of the
loop, queue messages that are no commands, disconnect and authenticate. -/
structure Keeps (c c' : Client Rest) : Prop where
  fixed : c'.fixed = c.fixed
  logged : ∃ new, c'.rest.log = new ++ c.rest.log ∧ ∀ e ∈ new, e.ofLoop = false
  queued : ∃ new, c'.rest.queue = c.rest.queue ++ new ∧ ∀ ctl ∈ new, ctl.isCommand = false
  state : c'.state ∈ [c.state, .disconnected, .authenticated]

section Keeps

variable (c : Client Rest)

theorem keeps_of_rest {c c' : Client Rest} (hstate : c'.state = c.state) (hrest : c'.rest = c.rest) :
    Keeps c c' := by
  refine ⟨?_, ⟨[], by rw [hrest]; rfl, by simp⟩, ⟨[], by rw [hrest, List.append_nil], by simp⟩, ?_⟩
  · unfold Client.fixed
    rw [hrest]
  · rw [hstate]
    exact List.mem_cons_self

theorem Keeps.trans {c c' c'' : Client Rest} (h : Keeps c c') (h' : Keeps c' c'') : Keeps c c'' := by
  obtain ⟨new, hlog, hnew⟩ := h.logged
  obtain ⟨new', hlog', hnew'⟩ := h'.logged
  obtain ⟨added, hqueue, hadded⟩ := h.queued
  obtain ⟨added', hqueue', hadded'⟩ := h'.queued
  refine ⟨h'.fixed.trans h.fixed, ⟨new' ++ new, ?_, ?_⟩, ⟨added ++ added', ?_, ?_⟩, ?_⟩
  · rw [hlog', hlog, List.append_assoc]
  · exact List.forall_mem_append.mpr ⟨hnew', hnew⟩
  · rw [hqueue', hqueue, List.append_assoc]
  · exact List.forall_mem_append.mpr ⟨hadded, hadded'⟩
  · rcases List.mem_cons.mp h'.state with hsame | hset
    · rw [hsame]
      exact h.state
    · exact List.mem_cons_of_mem _ hset

theorem keeps_emit {e : Event} (he : e.ofLoop = false) : Keeps c (c.emit e) := by
  have hdone : (c.emit e).rest.log.filter Event.ofLoop = c.rest.log.filter Event.ofLoop :=
    List.filter_cons_of_neg (by rw [he]; decide)
  refine ⟨?_, ⟨[e], rfl, by simpa using he⟩, ⟨[], (List.append_nil _).symm, by simp⟩,
    List.mem_cons_self⟩
  unfold Client.fixed
  rw [hdone]
  rfl

theorem fixed_setState (state : BlynkState) : (setState c state).fixed = c.fixed := by
  obtain ⟨reports, heq⟩ := setState_eq c state
  rw [heq]
  rfl

theorem keeps_setAuthenticated : Keeps c (setState c .authenticated) := by
  have hfixed := fixed_setState c .authenticated
  obtain ⟨reports, heq⟩ := setState_eq c .authenticated
  rw [heq] at hfixed ⊢
  exact ⟨hfixed, ⟨[_], rfl, by simp [Event.ofLoop]⟩, ⟨[], (List.append_nil _).symm, by simp⟩, by simp⟩

theorem keeps_setDisconnected (reason : BlynkErr) (code : Int) :
    Keeps c (setDisconnected c reason code) := by
  obtain ⟨reports, heq⟩ := setDisconnected_eq c reason code
  rw [heq]
  exact ⟨rfl, ⟨[_], rfl, by simp [Event.ofLoop]⟩, ⟨[], (List.append_nil _).symm, by simp⟩, by simp⟩

theorem keeps_invoke (a : Awaiting) (status : UInt16) (cause : Cause) :
    Keeps c (c.invoke a status cause) := by
  rcases invoke_cases c a status cause with
    ⟨-, heq⟩ | ⟨handler, -, heq | ⟨reason, code, heq⟩ | ⟨-, -, heq⟩⟩
  · rw [heq]
    exact keeps_of_rest rfl rfl
  · rw [heq]
    exact keeps_emit c rfl
  · rw [heq]
    exact (keeps_emit c rfl).trans (keeps_setDisconnected _ reason code)
  · rw [heq]
    exact (keeps_emit c rfl).trans (keeps_setAuthenticated _)

theorem fixed_wake (answer : CtlWrite) : (c.wake answer).fixed = c.fixed := by
  obtain ⟨unread, heq⟩ := wake_eq c answer
  rw [heq]
  rfl

theorem keeps_sendOrDisconnect {s : Send} (hs : (c.ctl s).isCommand = false) (answer : CtlWrite)
    (errno : Int) : Keeps c (c.sendOrDisconnect s answer errno).1 := by
  have hqueued : Keeps c ((c.enqueue (c.ctl s)).printfN privCtr) :=
    ⟨rfl, ⟨[_], rfl, by simp [Event.ofLoop]⟩, ⟨[_], rfl, fun ctl hctl => (by
      rw [List.mem_singleton.mp hctl]
      exact hs)⟩, List.mem_cons_self⟩
  rcases sendOrDisconnect_cases c s answer errno with ⟨-, heq⟩ | ⟨-, -, heq⟩ | ⟨-, -, heq⟩
  · rw [heq]
    exact keeps_setDisconnected c _ _
  · rw [heq]
    exact hqueued.trans (keeps_setDisconnected _ _ _)
  · rw [heq]
    obtain ⟨unread, hwake⟩ := wake_eq ((c.enqueue (c.ctl s)).printfN privCtr) answer
    show Keeps c (((c.enqueue (c.ctl s)).printfN privCtr).wake answer |>.printfN privCtr2)
    rw [hwake]
    exact ⟨hqueued.fixed, hqueued.logged, hqueued.queued, hqueued.state⟩

theorem keeps_handleMessage (e : Env) : Keeps c (handleMessage e c) := by
  have hreceived : Keeps c (c.emit (.received c.message)) := keeps_emit c rfl
  have hreceive (m : Message) : Keeps c (c.receive m) :=
    ⟨hreceived.fixed, hreceived.logged, hreceived.queued, hreceived.state⟩
  rcases handleMessage_cases e (c := c) with
    ⟨heq, -⟩ | ⟨m, heq | ⟨handler, id, name, args, data, heq⟩ | ⟨id, status, heq⟩⟩
  · rw [heq]
    refine foldl_invoke (P := Keeps c) (fun c' a h => h.trans (keeps_invoke c' a _ _)) _ ?_
    exact ⟨hreceived.fixed, hreceived.logged, hreceived.queued, hreceived.state⟩
  · rw [heq]
    exact hreceive m
  · rw [heq]
    exact (hreceive m).trans (keeps_emit _ rfl)
  · rw [heq]
    exact (hreceive m).trans (keeps_sendOrDisconnect _ rfl _ _)

theorem keeps_parse (e : Env) (d : UInt8) : Keeps c (parse (handleMessage e) c d).1 := by
  obtain ⟨c', hparse | hparse, hstate, hrest⟩ := parse_cases c d
  · rw [hparse]
    exact keeps_of_rest hstate hrest
  · rw [hparse]
    have hhandle := (keeps_of_rest hstate hrest).trans (keeps_handleMessage c' e)
    exact ⟨hhandle.fixed, hhandle.logged, hhandle.queued, hhandle.state⟩

end Keeps

/-! ## Steps of the task -/

/-- The steps of `blynk_loop` that leave the client as it is. -/
inductive Move (c : Client Rest) : Pc → Pc → Prop
  | enter : Move c .entry .lookup
  | terminate : Move c .entry .terminated
  | resolved : Move c .lookup .connect
  | resume (hbuf : c.rest.bufTotal ≠ 0) : Move c .poll (.select true)
  | nothing (hqueue : c.rest.queue = []) : Move c .poll (.select false)
  | selected (wr : Bool) (ready : Ready) : Move c (.select wr) (.timers ready c.rest.now 0)
  | notDue (ready : Ready) (now i : Nat) : Move c (.timers ready now i) (.timers ready now (i + 1))
  | timersDone (ready : Ready) (now i : Nat) : Move c (.timers ready now i) (.ping ready now)
  | noPing (ready : Ready) (now : Nat)
    (hdue : ¬ (c.rest.pingDeadline % 2 ^ 32 ≠ 0 ∧ timerExpired c.rest.pingDeadline now)) :
    Move c (.ping ready now) (.check ready)
  | leave (ready : Ready) (hstate : c.state = .disconnected) : Move c (.check ready) .close
  | again (ready : Ready) (hstate : c.state ≠ .disconnected) : Move c (.check ready) .poll
  | handle (ready : Ready) (hstate : c.state ≠ .disconnected) :
    Move c (.check ready) (.readCtl ready)
  | noDatagram (ready : Ready) : Move c (.readCtl ready) (.read ready)
  | noRead (ready : Ready) : Move c (.read ready) (.write ready)
  | read (ready : Ready) (bytes : List UInt8) : Move c (.read ready) (.parse ready bytes)
  | parsed (ready : Ready) : Move c (.parse ready []) (.write ready)
  | noWrite (ready : Ready) : Move c (.write ready) .poll
  | closed : Move c .close .delay
  | delayed : Move c .delay .entry

/-- The places in the read loop where a system call can fail. -/
def Pc.callsSystem : Pc → Bool
  | .select _ => true
  | .readCtl _ => true
  | .read _ => true
  | .write _ => true
  | _ => false

/-- The client with a message taken from the queue. -/
def Client.dequeue (c : Client Rest) (ctl : Ctl) (queue : List Ctl) : Client Rest :=
  { c with rest := { c.rest with queue := queue } }.emit (.taken ctl)

def Client.withRequests (c : Client Rest) (requests : Requests) : Client Rest :=
  { c with rest := { c.rest with requests := requests } }

/-- What one step of `blynk_loop` can do: the client and the place that it leaves. -/
inductive Turn (s : Sys) (e : Env) : Client Rest → Pc → Prop
  | ended (hpc : s.pc = .absent ∨ s.pc = .terminated) : Turn s e s.client s.pc
  | move {pc : Pc} (hmove : Move s.client s.pc pc) : Turn s e s.client pc
  | unreachable (hpc : s.pc = .lookup ∨ s.pc = .connect) (reason : BlynkErr) (code : Int) :
    Turn s e (setDisconnected s.client reason code) .delay
  | fail (hpc : s.pc.callsSystem = true) (reason : BlynkErr) (code : Int) :
    Turn s e (setDisconnected s.client reason code) .close
  | connect (hpc : s.pc = .connect) : Turn s e (s.client.emit .connected) .setConnected
  | setConnected (hpc : s.pc = .setConnected) : Turn s e (setState s.client .connected) .reset
  | reset (hpc : s.pc = .reset) : Turn s e s.client.reset .advancePing
  | advancePing (hpc : s.pc = .advancePing) : Turn s e s.client.advancePing .login
  | login (hpc : s.pc = .login) :
    Turn s e (s.client.sendOrDisconnect (loginSend s.opt.token) e.ctlWrite e.errno).1
      (if (s.client.sendOrDisconnect (loginSend s.opt.token) e.ctlWrite e.errno).2 = .ok then .poll
        else .close)
  | noId {ctl : Ctl} {queue : List Ctl} {requests : Requests} (hpc : s.pc = .poll)
    (hbuf : s.client.rest.bufTotal = 0) (hqueue : s.client.rest.queue = ctl :: queue)
    (hzero : ctl.message.id = 0)
    (hid : getId s.client.rest.requests ctl.deadline ctl.handler ctl.data ctl.req = (requests, 0)) :
    Turn s e (setDisconnected ((s.client.dequeue ctl queue).withRequests requests) .mem 0) .close
  | takeNew {ctl : Ctl} {queue : List Ctl} {requests : Requests} {id : UInt16} (hpc : s.pc = .poll)
    (hbuf : s.client.rest.bufTotal = 0) (hqueue : s.client.rest.queue = ctl :: queue)
    (hzero : ctl.message.id = 0)
    (hid : getId s.client.rest.requests ctl.deadline ctl.handler ctl.data ctl.req = (requests, id))
    (hne : id ≠ 0) :
    Turn s e (((s.client.dequeue ctl queue).withRequests requests).serialize ctl id) (.select true)
  | takeAnswer {ctl : Ctl} {queue : List Ctl} (hpc : s.pc = .poll)
    (hbuf : s.client.rest.bufTotal = 0) (hqueue : s.client.rest.queue = ctl :: queue)
    (hne : ctl.message.id ≠ 0) :
    Turn s e ((s.client.dequeue ctl queue).serialize ctl ctl.message.id) (.select true)
  | expire {ready : Ready} {now i : Nat} {requests : Requests} {a : Awaiting}
    (hpc : s.pc = .timers ready now i)
    (hexpire : s.client.rest.requests.expire i now = (requests, some a)) :
    Turn s e ((s.client.withRequests requests).invoke a blynkStatusResponseTimeout (.timer now))
      (.timers ready now (i + 1))
  | ping {ready : Ready} {now : Nat} (hpc : s.pc = .ping ready now)
    (hdue : s.client.rest.pingDeadline % 2 ^ 32 ≠ 0 ∧ timerExpired s.client.rest.pingDeadline now) :
    Turn s e (s.client.advancePing.sendOrDisconnect pingSend e.ctlWrite e.errno).1
      (if (s.client.advancePing.sendOrDisconnect pingSend e.ctlWrite e.errno).2 = .ok then .check ready
        else .close)
  | datagram {ready : Ready} (hpc : s.pc = .readCtl ready) :
    Turn s e (s.client.readDatagram e) (.read ready)
  | parse {ready : Ready} {d : UInt8} {ds : List UInt8} (hpc : s.pc = .parse ready (d :: ds)) :
    Turn s e (parse (handleMessage e) s.client d).1
      (if (parse (handleMessage e) s.client d).1.state = .disconnected then .close
        else .parse ready ds)
  | write {ready : Ready} (hpc : s.pc = .write ready)
    (hwr : s.client.rest.bufTotal ≠ 0 ∧ ready.wr = true) (herror : e.wrError = false)
    (hagain : e.wrAgain = false) : Turn s e (s.client.writeServer e) .poll

theorem isCommand_login (c : Client Rest) (token : CArray 64) :
    (c.ctl (loginSend token)).isCommand = false := by
  show ((loginSend token).message.command != blynkCmdResponse && false && _) = false
  rw [Bool.and_false, Bool.false_and]

/-- What no step of the task writes: the sending end of the control sockets, the pair they are from,
and the tick count. -/
def Client.given (c : Client Rest) : Int × (Int × Int) × Nat :=
  (c.rest.ctl1, c.rest.pair, c.rest.now)

theorem given_of_fixed {c c' : Client Rest} (h : c'.fixed = c.fixed) : c'.given = c.given :=
  congrArg (fun f : Fixed => (f.ctl1, f.pair, f.now)) h

theorem given_turn {s : Sys} {e : Env} {c : Client Rest} {pc : Pc} (h : Turn s e c pc) :
    c.given = s.client.given := by
  cases h with
  | unreachable => exact given_of_fixed (keeps_setDisconnected _ _ _).fixed
  | fail => exact given_of_fixed (keeps_setDisconnected _ _ _).fixed
  | setConnected => exact given_of_fixed (fixed_setState _ _)
  | login => exact given_of_fixed (keeps_sendOrDisconnect _ (isCommand_login _ _) _ _).fixed
  | noId => exact (given_of_fixed (keeps_setDisconnected _ _ _).fixed).trans rfl
  | expire => exact given_of_fixed (keeps_invoke _ _ _ _).fixed
  | ping => exact (given_of_fixed (keeps_sendOrDisconnect _ rfl _ _).fixed).trans rfl
  | datagram =>
    unfold Client.readDatagram
    split_ifs <;> rfl
  | parse => exact given_of_fixed (keeps_parse _ _ _).fixed
  | _ => rfl

theorem Sys.take_eq (s : Sys) (ctl : Ctl) (queue : List Ctl) :
    s.take ctl queue
      = if ctl.message.id = 0 then
          let got := getId s.client.rest.requests ctl.deadline ctl.handler ctl.data ctl.req
          let c := (s.client.dequeue ctl queue).withRequests got.1
          if got.2 = 0 then s.goto (setDisconnected c .mem 0) .close
          else s.goto (c.serialize ctl got.2) (.select true)
        else s.goto ((s.client.dequeue ctl queue).serialize ctl ctl.message.id) (.select true) :=
  rfl

theorem Sys.take_turn {s : Sys} (e : Env) {ctl : Ctl} {queue : List Ctl} (hpc : s.pc = .poll)
    (hbuf : s.client.rest.bufTotal = 0) (hqueue : s.client.rest.queue = ctl :: queue) :
    ∃ c pc, Turn s e c pc ∧ s.take ctl queue = s.goto c pc := by
  rw [s.take_eq]
  rcases eq_or_ne ctl.message.id 0 with hzero | hne
  · rw [if_pos hzero]
    cases hid : getId s.client.rest.requests ctl.deadline ctl.handler ctl.data ctl.req with
    | mk requests id =>
      rcases eq_or_ne id 0 with rfl | hne
      · exact ⟨_, _, .noId hpc hbuf hqueue hzero hid, rfl⟩
      · exact ⟨_, _, .takeNew hpc hbuf hqueue hzero hid hne, if_neg hne⟩
  · exact ⟨_, _, .takeAnswer hpc hbuf hqueue hne, if_neg hne⟩

/-- Every step of `blynk_loop` is one of these; only its entry copies the options. -/
theorem Sys.blynkLoop_turn (s : Sys) (e : Env) :
    ∃ c pc opt, Turn s e c pc
      ∧ s.blynkLoop e = { s with client := c, pc := pc, opt := opt } := by
  unfold Sys.blynkLoop
  cases hpc : s.pc with
  | absent => exact ⟨_, _, _, .ended (Or.inl hpc), rfl⟩
  | terminated => exact ⟨_, _, _, .ended (Or.inr hpc), rfl⟩
  | entry =>
    simp only
    split_ifs
    · exact ⟨_, _, _, .move (hpc ▸ .enter), rfl⟩
    · exact ⟨_, _, _, .move (hpc ▸ .terminate), rfl⟩
  | lookup =>
    simp only
    split_ifs
    · exact ⟨_, _, _, .move (hpc ▸ .resolved), rfl⟩
    · exact ⟨_, _, _, .unreachable (Or.inl hpc) _ _, rfl⟩
  | connect =>
    simp only
    split_ifs
    · exact ⟨_, _, _, .connect hpc, rfl⟩
    · exact ⟨_, _, _, .unreachable (Or.inr hpc) _ _, rfl⟩
  | setConnected => exact ⟨_, _, _, .setConnected hpc, rfl⟩
  | reset => exact ⟨_, _, _, .reset hpc, rfl⟩
  | advancePing => exact ⟨_, _, _, .advancePing hpc, rfl⟩
  | login =>
    simp only
    cases hsend : s.client.sendOrDisconnect (loginSend s.opt.token) e.ctlWrite e.errno with
    | mk c ret =>
      refine ⟨_, _, s.opt, .login hpc, ?_⟩
      rw [hsend]
      cases ret <;> rfl
  | poll =>
    simp only
    unfold Sys.poll
    rcases eq_or_ne s.client.rest.bufTotal 0 with hbuf | hbuf
    · rw [if_neg (not_not.mpr hbuf)]
      cases hqueue : s.client.rest.queue with
      | nil => exact ⟨_, _, _, .move (hpc ▸ .nothing hqueue), rfl⟩
      | cons ctl queue =>
        obtain ⟨c, pc, hturn, htake⟩ := s.take_turn e hpc hbuf hqueue
        exact ⟨c, pc, s.opt, hturn, htake⟩
    · rw [if_pos hbuf]
      exact ⟨_, _, _, .move (hpc ▸ .resume hbuf), rfl⟩
  | select wr =>
    simp only
    split_ifs
    · exact ⟨_, _, _, .fail (by rw [hpc]; rfl) _ _, rfl⟩
    · exact ⟨_, _, _, .move (hpc ▸ .selected wr _), rfl⟩
  | timers ready now i =>
    simp only
    split_ifs
    · unfold Sys.timer
      rcases s.client.rest.requests.expire_cases i now with hnone | ⟨a, -, -, hsome⟩
      · rw [hnone]
        exact ⟨_, _, _, .move (hpc ▸ .notDue ready now i), rfl⟩
      · rw [hsome]
        exact ⟨_, _, _, .expire hpc hsome, rfl⟩
    · exact ⟨_, _, _, .move (hpc ▸ .timersDone ready now i), rfl⟩
  | ping ready now =>
    simp only
    unfold Sys.pingTimer
    split_ifs with hdue
    · cases hsend : s.client.advancePing.sendOrDisconnect pingSend e.ctlWrite e.errno with
      | mk c ret =>
        refine ⟨_, _, s.opt, .ping hpc hdue, ?_⟩
        rw [hsend]
        cases ret <;> rfl
    · exact ⟨_, _, _, .move (hpc ▸ .noPing ready now hdue), rfl⟩
  | check ready =>
    simp only
    split_ifs with hstate
    · exact ⟨_, _, _, .move (hpc ▸ .leave ready hstate), rfl⟩
    · exact ⟨_, _, _, .move (hpc ▸ .again ready hstate), rfl⟩
    · exact ⟨_, _, _, .move (hpc ▸ .handle ready hstate), rfl⟩
  | readCtl ready =>
    simp only
    split_ifs
    · exact ⟨_, _, _, .fail (by rw [hpc]; rfl) _ _, rfl⟩
    · exact ⟨_, _, _, .datagram hpc, rfl⟩
    · exact ⟨_, _, _, .move (hpc ▸ .noDatagram ready), rfl⟩
  | read ready =>
    simp only
    split_ifs
    · exact ⟨_, _, _, .fail (by rw [hpc]; rfl) _ _, rfl⟩
    · exact ⟨_, _, _, .move (hpc ▸ .noRead ready), rfl⟩
    · exact ⟨_, _, _, .fail (by rw [hpc]; rfl) _ _, rfl⟩
    · exact ⟨_, _, _, .move (hpc ▸ .read ready _), rfl⟩
    · exact ⟨_, _, _, .move (hpc ▸ .noRead ready), rfl⟩
  | parse ready bytes =>
    cases bytes with
    | nil => exact ⟨_, _, _, .move (hpc ▸ .parsed ready), rfl⟩
    | cons d ds =>
      refine ⟨_, _, s.opt, .parse hpc, ?_⟩
      simp only
      split_ifs <;> rfl
  | write ready =>
    simp only
    split_ifs with hwr herror hagain
    · exact ⟨_, _, _, .fail (by rw [hpc]; rfl) _ _, rfl⟩
    · exact ⟨_, _, _, .move (hpc ▸ .noWrite ready), rfl⟩
    · exact ⟨_, _, _, .write hpc hwr (by simpa using herror) (by simpa using hagain), rfl⟩
    · exact ⟨_, _, _, .move (hpc ▸ .noWrite ready), rfl⟩
  | close => exact ⟨_, _, _, .move (hpc ▸ .closed), rfl⟩
  | delay => exact ⟨_, _, _, .move (hpc ▸ .delayed), rfl⟩

/-! ## Steps of the system -/

/-- What the application can pass as a response handler. -/
def OfApplication (handler : Option ResponseHandler) : Prop :=
  handler = none ∨ ∃ f, handler = some (.app f)

theorem Command.ofApplication (k : Command) : OfApplication k.send.handler := by
  show OfApplication (k.handler.map .app)
  cases k.handler with
  | none => exact Or.inl rfl
  | some f => exact Or.inr ⟨f, rfl⟩

theorem eq_send_of_ok {state : BlynkState} {k : Command} {send : Send}
    (h : blynkSendWithCallbackV state k = .ok send) : send = k.send := by
  unfold blynkSendWithCallbackV at h
  split_ifs at h
  cases state <;> cases h
  rfl

/-- What `blynk_set_handler`, `blynk_set_options` and their like write. -/
def Client.configure (c : Client Rest) (handlers : Handlers) (opt : Options) (evtHandler : Bool) :
    Client Rest :=
  { c with rest := { c.rest with handlers := handlers, opt := opt, evtHandler := evtHandler } }

def Client.tick (c : Client Rest) (n : Nat) : Client Rest :=
  { c with rest := { c.rest with now := c.rest.now + n } }

/-- The state handler of the application is called for `ev`, and later for `evs`. -/
def Client.report (c : Client Rest) (ev : StateEvt) (evs : List StateEvt) : Client Rest :=
  { c.emit (.report ev) with rest := { (c.emit (.report ev)).rest with reports := evs } }

/-- What one step of the system can do. -/
inductive Step (s : Sys) : Input → Sys → Prop
  | tick (n : Nat) : Step s (.tick n) { s with client := s.client.tick n }
  | report (e : Env) {ev : StateEvt} {evs : List StateEvt}
    (hreports : s.client.rest.reports = ev :: evs) :
    Step s (.task e) { s with client := s.client.report ev evs }
  | turn {e : Env} {c : Client Rest} {pc : Pc} (hreports : s.client.rest.reports = [])
    (hturn : Turn s e c pc) (opt : Options) :
    Step s (.task e) { s with client := c, pc := pc, opt := opt }
  | refuse (t : Nat) (a : ApiCall) : Step s (.call t a) s
  | accept {t : Nat} {a : ApiCall} {send : Send} (hidle : s.senders t = .idle)
    (hsend : OfApplication send.handler) :
    Step s (.call t a) (s.setSender t (.checked send))
  | configure (t : Nat) (a : ApiCall) (handlers : Handlers) (opt : Options) (evtHandler : Bool) :
    Step s (.call t a) { s with client := s.client.configure handlers opt evtHandler }
  | start {t : Nat} {a : ApiCall} {p : Sender} (hidle : s.senders t = .idle)
    (hstate : s.client.state = .stopped) (hp : p = .idle ∨ ∃ ev, p = .reporting ev) :
    Step s (.call t a)
      ((s.goto (s.client.writeState .blynkStart .disconnected) .entry).setSender t p)
  | wait {t : Nat} (answer : CtlWrite)
    (hsender : s.senders t = .idle ∨ ∃ ctl, s.senders t = .ready ctl) : Step s (.proceed t answer) s
  | build {t : Nat} {answer : CtlWrite} {send : Send} (hsender : s.senders t = .checked send) :
    Step s (.proceed t answer) (s.setSender t (.ready (s.client.ctl send)))
  | enqueue {t : Nat} {answer : CtlWrite} {ctl : Ctl} (hsender : s.senders t = .ready ctl)
    (hroom : s.client.room = true) :
    Step s (.proceed t answer)
      ({ s with client := s.client.enqueue ctl }.setSender t (.queued s.client.rest.nreq))
  | giveUp {t : Nat} {answer : CtlWrite} {ctl : Ctl} (hsender : s.senders t = .ready ctl) :
    Step s (.proceed t answer) (s.setSender t .idle)
  | print {t : Nat} {answer : CtlWrite} {req : Nat} (hsender : s.senders t = .queued req) :
    Step s (.proceed t answer)
      ({ s with client := s.client.printfN privCtr }.setSender t (.printed req))
  | refused {t req : Nat} (hsender : s.senders t = .printed req) :
    Step s (.proceed t .refused) (s.setSender t .idle)
  | wake {t : Nat} {answer : CtlWrite} {req : Nat} (hsender : s.senders t = .printed req)
    (hanswer : answer ≠ .refused) :
    Step s (.proceed t answer) ({ s with client := s.client.wake answer }.setSender t .written)
  | finish {t : Nat} {answer : CtlWrite} (hsender : s.senders t = .written) :
    Step s (.proceed t answer) ({ s with client := s.client.printfN privCtr2 }.setSender t .idle)
  | reported {t : Nat} {answer : CtlWrite} {ev : StateEvt} (hsender : s.senders t = .reporting ev) :
    Step s (.proceed t answer) ({ s with client := s.client.emit (.report ev) }.setSender t .idle)

theorem Sys.task_step (s : Sys) (e : Env) : Step s (.task e) (s.task e) := by
  unfold Sys.task
  cases hreports : s.client.rest.reports with
  | nil =>
    obtain ⟨c, pc, opt, hturn, heq⟩ := s.blynkLoop_turn e
    show Step s (.task e) (s.blynkLoop e)
    rw [heq]
    exact .turn hreports hturn opt
  | cons ev evs => exact .report e hreports

theorem Sys.blynkStart_step (s : Sys) {t : Nat} (hidle : s.senders t = .idle) (created : Bool) :
    Step s (.call t (.start created)) (s.blynkStart t created) := by
  unfold Sys.blynkStart
  split_ifs with hstate hcreated hhandler
  · exact .refuse _ _
  · exact .start hidle (not_not.mp hstate) (Or.inr ⟨_, rfl⟩)
  · -- no handler: the thread is done at once
    have hset : (s.goto (s.client.writeState .blynkStart .disconnected) .entry)
        = (s.goto (s.client.writeState .blynkStart .disconnected) .entry).setSender t .idle := by
      unfold Sys.setSender
      rw [show (s.goto (s.client.writeState .blynkStart .disconnected) .entry).senders
        = s.senders from rfl, ← hidle, Function.update_eq_self]
      rfl
    simp only
    rw [hset]
    exact .start hidle (not_not.mp hstate) (Or.inl rfl)
  · exact .refuse _ _

theorem Sys.call_step (s : Sys) {t : Nat} (hidle : s.senders t = .idle) (a : ApiCall) :
    Step s (.call t a) (s.call t a) := by
  cases a with
  | send k =>
    rw [Sys.call]
    cases hsend : blynkSendWithCallbackV s.client.state k with
    | error err => exact .refuse _ _
    | ok send => exact .accept hidle (eq_send_of_ok hsend ▸ k.ofApplication)
  | sendResponse id status => exact .accept hidle (Or.inl rfl)
  | setHandler name handler data => exact .configure t _ _ _ _
  | removeHandler name => exact .configure t _ _ _ _
  | setOptions opt => exact .configure t _ _ _ _
  | setStateHandler registered => exact .configure t _ _ _ _
  | start created => exact s.blynkStart_step hidle created

theorem Sys.proceed_step (s : Sys) (t : Nat) (answer : CtlWrite) :
    Step s (.proceed t answer) (s.proceed t answer) := by
  unfold Sys.proceed
  cases hsender : s.senders t with
  | idle => exact .wait answer (Or.inl hsender)
  | checked send => exact .build hsender
  | ready ctl =>
    simp only
    split_ifs with hroom hrefused
    · exact .enqueue hsender hroom
    · exact .giveUp hsender
    · exact .wait answer (Or.inr ⟨ctl, hsender⟩)
  | queued req => exact .print hsender
  | printed req =>
    simp only
    split_ifs with hrefused
    · rw [hrefused]
      exact .refused hsender
    · exact .wake hsender hrefused
  | written => exact .finish hsender
  | reporting ev => exact .reported hsender

/-- **What one step of the system can do.** -/
theorem Sys.step_step (s : Sys) (i : Input) : Step s i (s.step i) := by
  cases i with
  | tick n => exact .tick n
  | task e => exact s.task_step e
  | call t a =>
    show Step s (.call t a) (if s.senders t = .idle then s.call t a else s)
    split_ifs with hidle
    · exact s.call_step hidle a
    · exact .refuse _ _
  | proceed t answer => exact s.proceed_step t answer

end ControlFan.Blynk
