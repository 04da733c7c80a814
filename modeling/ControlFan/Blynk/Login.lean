import ControlFan.Blynk.States

/-!
# Blynk — the login comes first

A new connection resets the queue and puts its login into it; a command is sent only in a client
that is authenticated. But the reset and the login are two steps of the task, the state check and
the entry into the queue are two steps of a thread, and a response is sent without a check.

* **`LoginFirst`** — what the task may take from the queue;
* **`Sys.InTime`** — a thread enters its message neither between the reset and the login, nor, if
  it is a command, on a connection that is not authenticated;
* **`LogsIn`** — what is taken, what is in the queue and where the task stands fit together;
* **`loginFirst_run`** — in every run whose threads are in time, the login comes first.
-/

namespace ControlFan.Blynk

open Machine

/-! ## The contract -/

def Event.isTaken : Event → Bool
  | .taken _ => true
  | _ => false

/-- The current connection has taken nothing from the queue. -/
def Untaken (es : List Event) : Prop := ∀ e ∈ session es, e.isTaken = false

instance (es : List Event) : Decidable (Untaken es) := by
  unfold Untaken
  infer_instance

/-- What may be taken from the queue: the login of the connection before anything else, and no
command while the state is `CONNECTED`. -/
def LoginFirst (es : List Event) : Event → Prop
  | .taken ctl =>
    (Untaken es →
        ctl.isLogin = true ∧ ctl.message.command = blynkCmdLogin ∧ .queued ctl ∈ session es)
      ∧ (ctl.isCommand = true → lastState es ≠ .connected)
  | _ => True

instance (es : List Event) : (e : Event) → Decidable (LoginFirst es e)
  | .taken _ => inferInstanceAs (Decidable ((_ → _) ∧ (_ → _)))
  | .connected | .queued _ | .frame _ _ | .sent _ | .received _ | .invoked _ _ _ _ _
  | .command _ _ _ _ _ | .state _ _ _ | .report _ => isTrue trivial

/-- The message that a thread enters into the queue in this step. -/
def Sys.enters (s : Sys) : Input → Option Ctl
  | .proceed t _ =>
    match s.senders t with
    | .ready ctl => if s.client.room then some ctl else none
    | _ => none
  | _ => none

/-- The queue is reset, and the login is not in it yet. -/
def Pc.queueReset : Pc → Bool
  | .advancePing => true
  | .login => true
  | _ => false

/-- A message that is entered comes before the reset or behind the login, and a command does not
come to the queue of a connection that is not authenticated. -/
def Sys.InTime (s : Sys) (i : Input) : Prop :=
  ∀ ctl ∈ s.enters i,
    s.pc.queueReset = false
      ∧ (ctl.isCommand = true → s.pc.live = true → s.client.state ≠ .connected)

instance (s : Sys) (i : Input) : Decidable (s.InTime i) := by
  unfold Sys.InTime
  infer_instance

/-! ## The invariant -/

/-- The login of the connection is the first message of the queue, and `wr_buf` is free. -/
def LoginWaits (c : Client Rest) : Prop :=
  c.rest.bufTotal = 0
    ∧ ∃ ctl queue, c.rest.queue = ctl :: queue ∧ ctl.isLogin = true
      ∧ ctl.message.command = blynkCmdLogin ∧ .queued ctl ∈ session c.rest.log

/-- What the task relies on at a place of a connection. -/
def Pc.Expects (c : Client Rest) : Pc → Prop
  | .setConnected => Untaken c.rest.log
  | .reset => Untaken c.rest.log
  | .advancePing => Untaken c.rest.log ∧ c.rest.bufTotal = 0 ∧ c.rest.queue = []
  | .login => Untaken c.rest.log ∧ c.rest.bufTotal = 0 ∧ c.rest.queue = []
  -- the first round finds the login, and leaves `poll` with it
  | .poll => Untaken c.rest.log → LoginWaits c
  | .select _ => ¬ Untaken c.rest.log
  | .timers _ _ _ => ¬ Untaken c.rest.log
  | .ping _ _ => ¬ Untaken c.rest.log
  | .check _ => ¬ Untaken c.rest.log
  | .readCtl _ => ¬ Untaken c.rest.log
  | .read _ => ¬ Untaken c.rest.log
  | .parse _ _ => ¬ Untaken c.rest.log
  | .write _ => ¬ Untaken c.rest.log
  | _ => True

structure LogsIn (pc : Pc) (c : Client Rest) : Prop where
  explained : Explained LoginFirst c.rest.log
  expected : pc.Expects c
  commands : pc.live = true → c.state = .connected → ∀ ctl ∈ c.rest.queue, ctl.isCommand = false

section Later

variable {new : List Event} (hnew : ∀ e ∈ new, e.ofLoop = false)

include hnew

theorem session_append (es : List Event) : session (new ++ es) = new ++ session es := by
  refine List.takeWhile_append_of_pos fun e he => ?_
  have hloop := hnew e he
  cases e with
  | connected => cases hloop
  | _ => rfl

theorem untaken_append (es : List Event) : Untaken (new ++ es) ↔ Untaken es := by
  have htaken : ∀ e ∈ new, e.isTaken = false := by
    intro e he
    have hloop := hnew e he
    cases e with
    | taken => cases hloop
    | _ => rfl
  unfold Untaken
  rw [session_append hnew, List.forall_mem_append]
  exact and_iff_right htaken

theorem loginFirst_append {es : List Event} (h : Explained LoginFirst es) :
    Explained LoginFirst (new ++ es) := by
  refine h.append fun e he es' => ?_
  have hloop := hnew e he
  cases e with
  | taken => cases hloop
  | _ => trivial

variable {pc : Pc} {c c' : Client Rest} {added : List Ctl}

/-- Later events leave the place as it is, as long as the queue stays empty behind a reset. -/
theorem expects_later (h : pc.Expects c) (hlog : c'.rest.log = new ++ c.rest.log)
    (hbuf : c'.rest.bufTotal = c.rest.bufTotal) (hqueue : c'.rest.queue = c.rest.queue ++ added)
    (hreset : pc.queueReset = true → added = []) : pc.Expects c' := by
  have huntaken : Untaken c'.rest.log ↔ Untaken c.rest.log := by
    rw [hlog]
    exact untaken_append hnew _
  have hempty (hadded : added = [])
      (h : Untaken c.rest.log ∧ c.rest.bufTotal = 0 ∧ c.rest.queue = []) :
      Untaken c'.rest.log ∧ c'.rest.bufTotal = 0 ∧ c'.rest.queue = [] := by
    rw [huntaken, hbuf, hqueue, hadded, List.append_nil]
    exact h
  cases pc with
  | setConnected => exact huntaken.mpr h
  | reset => exact huntaken.mpr h
  | advancePing => exact hempty (hreset rfl) h
  | login => exact hempty (hreset rfl) h
  | poll =>
    intro hnone
    obtain ⟨hfree, ctl, queue, hhead, hlogin, hcmd, hqueued⟩ := h (huntaken.mp hnone)
    refine ⟨hbuf.trans hfree, ctl, queue ++ added, ?_, hlogin, hcmd, ?_⟩
    · rw [hqueue, hhead, List.cons_append]
    · rw [hlog, session_append hnew]
      exact List.mem_append_right _ hqueued
  | select => exact fun hnone => h (huntaken.mp hnone)
  | timers => exact fun hnone => h (huntaken.mp hnone)
  | ping => exact fun hnone => h (huntaken.mp hnone)
  | check => exact fun hnone => h (huntaken.mp hnone)
  | readCtl => exact fun hnone => h (huntaken.mp hnone)
  | read => exact fun hnone => h (huntaken.mp hnone)
  | parse => exact fun hnone => h (huntaken.mp hnone)
  | write => exact fun hnone => h (huntaken.mp hnone)
  | _ => trivial

theorem LogsIn.later (h : LogsIn pc c) (hlog : c'.rest.log = new ++ c.rest.log)
    (hbuf : c'.rest.bufTotal = c.rest.bufTotal) (hqueue : c'.rest.queue = c.rest.queue ++ added)
    (hreset : pc.queueReset = true → added = [])
    (hcommands : pc.live = true → c'.state = .connected →
      c.state = .connected ∧ ∀ ctl ∈ added, ctl.isCommand = false) : LogsIn pc c' := by
  refine ⟨?_, expects_later hnew h.expected hlog hbuf hqueue hreset, fun hlive hstate => ?_⟩
  · rw [hlog]
    exact loginFirst_append hnew h.explained
  · obtain ⟨hold, hadded⟩ := hcommands hlive hstate
    rw [hqueue]
    exact List.forall_mem_append.mpr ⟨h.commands hlive hold, hadded⟩

end Later

section Turns

variable {c c' : Client Rest} {pc : Pc}

/-- What callbacks, sends and parsers do on a connection that has its login in the queue. -/
theorem LogsIn.keeps (h : LogsIn pc c) (hkeeps : Keeps c c') (hpc : pc.queueReset = false) :
    LogsIn pc c' := by
  obtain ⟨new, hlog, hnew⟩ := hkeeps.logged
  obtain ⟨added, hqueue, hadded⟩ := hkeeps.queued
  have hbuf : c'.rest.bufTotal = c.rest.bufTotal := congrArg Fixed.bufTotal hkeeps.fixed
  refine h.later hnew hlog hbuf hqueue (fun hreset => ?_) fun _ hstate => ⟨?_, hadded⟩
  · rw [hpc] at hreset
    cases hreset
  · have hkept := hkeeps.state
    rw [hstate] at hkept
    rcases List.mem_cons.mp hkept with hold | hset
    · exact hold.symm
    · simp at hset

/-- The end of a connection. -/
theorem logsIn_close (h : Explained LoginFirst c.rest.log) : LogsIn .close c :=
  ⟨h, trivial, fun hlive => (by cases hlive)⟩

theorem Keeps.loginFirst (hkeeps : Keeps c c') (h : Explained LoginFirst c.rest.log) :
    Explained LoginFirst c'.rest.log := by
  obtain ⟨new, hlog, hnew⟩ := hkeeps.logged
  rw [hlog]
  exact loginFirst_append hnew h

/-- The message that is taken at `poll`. -/
theorem LogsIn.loginFirst {live : Bool} (h : LogsIn .poll c) (hauth : Authentic live c) {ctl : Ctl}
    {queue : List Ctl} (hqueue : c.rest.queue = ctl :: queue) :
    LoginFirst c.rest.log (.taken ctl) := by
  refine ⟨fun hnone => ?_, fun hcommand hstate => ?_⟩
  · obtain ⟨-, ctl', queue', hhead, hlogin⟩ := h.expected hnone
    rw [hqueue] at hhead
    cases hhead
    exact hlogin
  · rw [← hauth.current] at hstate
    have hnot := h.commands rfl hstate ctl (by rw [hqueue]; exact List.mem_cons_self)
    rw [hcommand] at hnot
    cases hnot

/-- A message is taken and serialised. -/
theorem LogsIn.serialize {live : Bool} (h : LogsIn .poll c) (hauth : Authentic live c) {ctl : Ctl}
    {queue : List Ctl} (hqueue : c.rest.queue = ctl :: queue) (requests : Requests) (id : UInt16) :
    LogsIn (.select true) (((c.dequeue ctl queue).withRequests requests).serialize ctl id) := by
  refine ⟨⟨trivial, h.loginFirst hauth hqueue, h.explained⟩, fun hnone => ?_,
    fun _ hstate ctl' hctl' => ?_⟩
  · have htaken : Event.taken ctl ∈ session (.frame ctl id :: .taken ctl :: c.rest.log) := by
      rw [session_cons rfl, session_cons rfl]
      exact List.mem_cons_of_mem _ List.mem_cons_self
    have hnot := hnone _ htaken
    cases hnot
  · exact h.commands rfl hstate ctl' (by rw [hqueue]; exact List.mem_cons_of_mem _ hctl')

/-- The login is put into the empty queue. -/
theorem LogsIn.login (h : LogsIn .login c) (token : CString.CArray 64) (answer : CtlWrite)
    (errno : Int) :
    LogsIn (if (c.sendOrDisconnect (loginSend token) answer errno).2 = .ok then .poll else .close)
      (c.sendOrDisconnect (loginSend token) answer errno).1 := by
  have hclose := logsIn_close
    ((keeps_sendOrDisconnect c (isCommand_login c token) answer errno).loginFirst h.explained)
  obtain ⟨-, hfree, hempty⟩ := h.expected
  rcases sendOrDisconnect_cases c (loginSend token) answer errno with
    ⟨-, heq⟩ | ⟨-, -, heq⟩ | ⟨-, -, heq⟩
  · rw [heq] at hclose ⊢
    exact hclose
  · rw [heq] at hclose ⊢
    exact hclose
  · rw [heq]
    obtain ⟨unread, hwake⟩ := wake_eq ((c.enqueue (c.ctl (loginSend token))).printfN privCtr) answer
    unfold Client.sent
    rw [hwake]
    have hqueue : c.rest.queue ++ [{ c.ctl (loginSend token) with req := c.rest.nreq }]
        = [{ c.ctl (loginSend token) with req := c.rest.nreq }] := by
      rw [hempty, List.nil_append]
    refine ⟨⟨trivial, h.explained⟩,
      fun _ => ⟨hfree, _, [], hqueue, rfl, message_loginSend token, ?_⟩, fun _ _ ctl hctl => ?_⟩
    · show _ ∈ session (.queued _ :: c.rest.log)
      rw [session_cons rfl]
      exact List.mem_cons_self
    · have hmem : ctl ∈ [{ c.ctl (loginSend token) with req := c.rest.nreq }] := by
        rw [← hqueue]
        exact hctl
      rw [List.mem_singleton.mp hmem]
      exact isCommand_login c token

theorem logsIn_move {pc' : Pc} (h : Move c pc pc') (hc : LogsIn pc c) : LogsIn pc' c := by
  have hexpected := hc.expected
  cases h with
  | resume hbuf =>
    refine ⟨hc.explained, fun hnone => ?_, hc.commands⟩
    exact hbuf (hexpected hnone).1
  | nothing hqueue =>
    refine ⟨hc.explained, fun hnone => ?_, hc.commands⟩
    obtain ⟨-, ctl, queue, hhead, -⟩ := hexpected hnone
    rw [hqueue] at hhead
    cases hhead
  | again => exact ⟨hc.explained, fun hnone => absurd hnone hexpected, hc.commands⟩
  | noWrite => exact ⟨hc.explained, fun hnone => absurd hnone hexpected, hc.commands⟩
  | leave => exact logsIn_close hc.explained
  | _ => exact ⟨hc.explained, hexpected, hc.commands⟩

end Turns

theorem logsIn_turn {s : Sys} {e : Env} {c : Client Rest} {pc : Pc} (h : Turn s e c pc)
    (hauth : s.Authenticating) (hs : LogsIn s.pc s.client) : LogsIn pc c := by
  have hexplained := hs.explained
  cases h with
  | ended => exact hs
  | move hmove => exact logsIn_move hmove hs
  | unreachable =>
    exact ⟨(keeps_setDisconnected _ _ _).loginFirst hexplained, trivial,
      fun hlive => (by cases hlive)⟩
  | fail => exact logsIn_close ((keeps_setDisconnected _ _ _).loginFirst hexplained)
  | connect =>
    refine ⟨⟨trivial, hexplained⟩, fun e he => ?_, fun hlive => (by cases hlive)⟩
    rw [show session (s.client.emit .connected).rest.log = [] from session_connected _] at he
    cases he
  | setConnected hpc =>
    rw [hpc] at hs
    obtain ⟨reports, heq⟩ := setState_eq s.client .connected
    rw [heq]
    have hnew : ∀ e ∈ [Event.state .setState s.client.state .connected], e.ofLoop = false := by
      simp [Event.ofLoop]
    exact ⟨⟨trivial, hexplained⟩, (untaken_append hnew _).mpr hs.expected,
      fun hlive => (by cases hlive)⟩
  | reset hpc =>
    rw [hpc] at hs
    exact ⟨hexplained, ⟨hs.expected, rfl, rfl⟩, fun _ _ _ hctl => (by cases hctl)⟩
  | advancePing hpc =>
    rw [hpc] at hs
    exact ⟨hexplained, hs.expected, hs.commands⟩
  | login hpc =>
    rw [hpc] at hs
    exact hs.login _ _ _
  | @noId ctl queue requests hpc _ hqueue _ _ =>
    rw [hpc] at hs
    refine logsIn_close ((keeps_setDisconnected _ _ _).loginFirst ?_)
    exact ⟨hs.loginFirst hauth.client hqueue, hexplained⟩
  | takeNew hpc _ hqueue _ _ _ =>
    rw [hpc] at hs
    exact hs.serialize hauth.client hqueue _ _
  | takeAnswer hpc _ hqueue _ =>
    rw [hpc] at hs
    exact hs.serialize hauth.client hqueue s.client.rest.requests _
  | @expire ready now i requests a hpc _ =>
    rw [hpc] at hs
    have hfreed : LogsIn (.timers ready now i) (s.client.withRequests requests) :=
      ⟨hexplained, hs.expected, hs.commands⟩
    have hinvoke := hfreed.keeps (keeps_invoke _ a blynkStatusResponseTimeout (.timer now)) rfl
    exact ⟨hinvoke.explained, hinvoke.expected, hinvoke.commands⟩
  | @ping ready now hpc _ =>
    rw [hpc] at hs
    have hadvance : LogsIn (.ping ready now) s.client.advancePing :=
      ⟨hexplained, hs.expected, hs.commands⟩
    have hsend :=
      hadvance.keeps (keeps_sendOrDisconnect _ (s := pingSend) rfl e.ctlWrite e.errno) rfl
    split_ifs
    · exact ⟨hsend.explained, hsend.expected, hsend.commands⟩
    · exact logsIn_close hsend.explained
  | datagram hpc =>
    rw [hpc] at hs
    unfold Client.readDatagram
    split_ifs <;> exact ⟨hexplained, hs.expected, hs.commands⟩
  | @parse ready d ds hpc =>
    rw [hpc] at hs
    have hparse := hs.keeps (keeps_parse s.client e d) rfl
    split_ifs
    · exact logsIn_close hparse.explained
    · exact ⟨hparse.explained, hparse.expected, hparse.commands⟩
  | write hpc _ _ _ =>
    rw [hpc] at hs
    refine ⟨⟨trivial, hexplained⟩, fun hnone => absurd ?_ hs.expected, hs.commands⟩
    intro e' he'
    refine hnone e' ?_
    show e' ∈ session (.sent _ :: s.client.rest.log)
    rw [session_cons rfl]
    exact List.mem_cons_of_mem _ he'

/-! ## All runs -/

theorem logsIn_step {s s' : Sys} {i : Input} (h : Step s i s') (hauth : s.Authenticating)
    (hs : LogsIn s.pc s.client) (htime : s.InTime i) : LogsIn s'.pc s'.client := by
  have hreport (ev : StateEvt) : LogsIn s.pc (s.client.emit (.report ev)) := by
    have hnew : ∀ e ∈ [Event.report ev], e.ofLoop = false := by simp [Event.ofLoop]
    exact hs.later hnew rfl rfl (List.append_nil _).symm (fun _ => rfl)
      fun _ hstate => ⟨hstate, List.forall_mem_nil _⟩
  cases h with
  | @report e ev evs _ =>
    exact ⟨(hreport ev).explained, (hreport ev).expected, (hreport ev).commands⟩
  | turn _ hturn _ => exact logsIn_turn hturn hauth hs
  | start => exact ⟨⟨trivial, hs.explained⟩, trivial, fun hlive => (by cases hlive)⟩
  | @enqueue t answer ctl hsender hroom =>
    have henters : s.enters (.proceed t answer) = some ctl := by
      rw [Sys.enters, hsender]
      exact if_pos hroom
    obtain ⟨hreset, hcommand⟩ := htime ctl henters
    have hnew : ∀ e ∈ [Event.queued { ctl with req := s.client.rest.nreq }], e.ofLoop = false := by
      simp [Event.ofLoop]
    refine hs.later hnew rfl rfl rfl (fun hpc => ?_) fun hlive hstate => ⟨hstate, ?_⟩
    · rw [hreset] at hpc
      cases hpc
    · intro ctl' hctl'
      rw [List.mem_singleton.mp hctl']
      cases hkind : ctl.isCommand with
      | false => exact hkind
      | true => exact absurd hstate (hcommand hkind hlive)
  | @wake t answer req _ _ =>
    obtain ⟨unread, heq⟩ := wake_eq s.client answer
    rw [heq]
    exact ⟨hs.explained, hs.expected, hs.commands⟩
  | @reported t answer ev _ =>
    exact hreport ev
  | _ => exact ⟨hs.explained, hs.expected, hs.commands⟩

/-- **The login comes first.** In every run in which the threads enter their messages in time, what
every connection takes first from the queue is its own login, and no command is taken while the
state is `CONNECTED`. -/
theorem loginFirst_run (pair : Int × Int) {is : List Input}
    (htime : AllSteps (silent Sys.step) Sys.InTime (.init pair) is) :
    Explained LoginFirst (run (silent Sys.step) (.init pair) is).1.client.rest.log := by
  have hinit : LogsIn (Sys.init pair).pc (Sys.init pair).client :=
    ⟨trivial, trivial, fun hlive => (by cases hlive)⟩
  refine (run_inv (I := fun s : Sys => s.Consistent ∧ LogsIn s.pc s.client) (fun s i hs hi => ?_)
    ⟨consistent_init pair, hinit⟩ htime).2.explained
  have hstep := s.step_step i
  exact ⟨consistent_step hstep hs.1, logsIn_step hstep hs.1.authenticating hs.2 hi⟩

/-- The login of the first connection is sent, and the server answers it. -/
def firstLogin : List Input :=
  List.flatten
    [firstConnection, [.task {}, .task { wrReady := true }], List.replicate 37 (.task {}),
      [.task { accepted := 92 }, .task {}, .task { rdReady := true }], List.replicate 36 (.task {}),
      [.task { bytes := [0, 0, 1, 0, 200] }], List.replicate 7 (.task {})]

/-- A thread passes the state check with a command, and builds its message. -/
def checkedCommand : List Input :=
  [.call 1 (.send { cmd := blynkCmdHardware, fmt := [], args := [] }), .proceed 1 .delivered]

/-- The command is entered and taken on the connection that it was checked on. -/
def sampleCommand : List Input :=
  List.flatten [firstLogin, checkedCommand, [.proceed 1 .delivered, .task {}]]

theorem loginFirst_run_sampleCommand :
    (run (silent Sys.step) (.init (54, 55)) sampleCommand).1.pc = .select true
      ∧ Explained LoginFirst
        (run (silent Sys.step) (.init (54, 55)) sampleCommand).1.client.rest.log := by
  have hpc : (run (silent Sys.step) (.init (54, 55)) sampleCommand).1.pc = .select true := by
    decide +kernel
  have htime : AllSteps (silent Sys.step) Sys.InTime (.init (54, 55)) sampleCommand := by
    decide +kernel
  refine ⟨hpc, ?_⟩
  revert htime
  exact loginFirst_run (54, 55)

/-- The connection is lost behind the check of the command, which is then entered between the reset
and the login of the next one. -/
def lateCommand : List Input :=
  List.flatten
    [firstLogin, checkedCommand, [.task {}, .task { nfds := -1 }], List.replicate 7 (.task {}),
      [.proceed 1 .delivered, .task {}, .task {}, .task {}]]

theorem command_taken_before_login :
    ¬ Explained LoginFirst
        (run (silent Sys.step) (.init (54, 55)) lateCommand).1.client.rest.log := by
  decide +kernel

end ControlFan.Blynk
