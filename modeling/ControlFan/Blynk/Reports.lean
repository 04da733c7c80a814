import ControlFan.Blynk.Lifecycle
import ControlFan.Blynk.States

/-!
# Blynk — the states that the application hears of

Every write of `state.state` is followed by a call of the state handler, made behind the release of
the mutex by the thread that wrote. Inside the client task one call follows the other, but
`blynk_start` makes its call in its own thread: the task that it has created can be ahead of it.

* **`written`**, **`reported`** — the states that were written and those that were reported;
* **`Sys.ReportsAgree`** — the reports are the writes, up to those that are still due;
* **`Announced`** — what is written and not reported is due, kept by all that the task does;
* **`reports_agree_run`** — when this holds in a whole run with one state handler.
-/

namespace ControlFan.Blynk

open Machine

/-! ## Writes and reports -/

def Event.reportedState : Event → Option BlynkState
  | .report ev => some ev.state
  | _ => none

/-- The values written to `state.state`. -/
def written (es : List Event) : List BlynkState := inOrder Event.newState es

/-- The states that the state handler was called with. -/
def reported (es : List Event) : List BlynkState := inOrder Event.reportedState es

theorem lastState_eq (es : List Event) : lastState es = (written es).getLast?.getD .stopped := by
  unfold lastState written inOrder
  rw [List.getLast?_reverse, List.head?_filterMap]

/-- No call of the state handler is due: neither one of the task nor one of `blynk_start`. -/
def Sys.quiet (s : Sys) : Prop :=
  s.client.rest.reports = [] ∧ ∀ t ev, s.senders t ≠ .reporting ev

/-- The reports come in the order of the writes, and none is missing between two calls. -/
structure Sys.ReportsAgree (s : Sys) : Prop where
  order : reported s.client.rest.log <+: written s.client.rest.log
  complete : s.quiet → reported s.client.rest.log = written s.client.rest.log
  current : s.quiet → s.client.state = (reported s.client.rest.log).getLast?.getD .stopped

/-! ## The client -/

/-- With a handler registered, what was written is reported, or due: `pending` by the thread in
`blynk_start`, and then by the task. -/
structure Announced (pending : List BlynkState) (c : Client Rest) : Prop where
  handler : c.rest.evtHandler = true
  owed : written c.rest.log = reported c.rest.log ++ pending ++ c.rest.reports.map StateEvt.state

section Client

variable {pending : List BlynkState} {c : Client Rest}

theorem Announced.emit (h : Announced pending c) {e : Event} (hnew : e.newState = none)
    (hreport : e.reportedState = none) : Announced pending (c.emit e) := by
  refine ⟨h.handler, ?_⟩
  show written (e :: c.rest.log) = reported (e :: c.rest.log) ++ pending ++ _
  unfold written reported
  rw [inOrder_cons, inOrder_cons, hnew, hreport, Option.toList_none, List.append_nil, List.append_nil]
  exact h.owed

theorem Announced.write (h : Announced pending c) (writer : Writer) (ev : StateEvt) :
    Announced pending ((c.writeState writer ev.state).due ev) := by
  unfold Client.due
  rw [if_pos (show (c.writeState writer ev.state).rest.evtHandler = true from h.handler)]
  refine ⟨h.handler, ?_⟩
  show written (.state writer c.state ev.state :: c.rest.log)
    = reported (.state writer c.state ev.state :: c.rest.log) ++ pending
      ++ (c.rest.reports ++ [ev]).map StateEvt.state
  have howed := h.owed
  unfold written reported at howed ⊢
  rw [inOrder_cons, inOrder_cons, howed, List.map_append]
  simp [Event.newState, Event.reportedState]

theorem Announced.setState (h : Announced pending c) (state : BlynkState) :
    Announced pending (setState c state) :=
  h.write .setState { state := state }

theorem Announced.setDisconnected (h : Announced pending c) (reason : BlynkErr) (code : Int) :
    Announced pending (setDisconnected c reason code) :=
  h.write .setDisconnected { state := .disconnected, reason := reason, code := code }

theorem Announced.enqueue (h : Announced pending c) (ctl : Ctl) :
    Announced pending (c.enqueue ctl) := by
  have hemit : Announced pending (c.emit (.queued { ctl with req := c.rest.nreq })) :=
    h.emit rfl rfl
  exact ⟨hemit.handler, hemit.owed⟩

theorem Announced.wake (h : Announced pending c) (answer : CtlWrite) :
    Announced pending (c.wake answer) := by
  obtain ⟨unread, heq⟩ := wake_eq c answer
  rw [heq]
  exact ⟨h.handler, h.owed⟩

theorem Announced.sendOrDisconnect (h : Announced pending c) (send : Send) (answer : CtlWrite)
    (errno : Int) : Announced pending (c.sendOrDisconnect send answer errno).1 := by
  have hqueued := h.enqueue (c.ctl send)
  have hprinted : Announced pending ((c.enqueue (c.ctl send)).printfN privCtr) :=
    ⟨hqueued.handler, hqueued.owed⟩
  rcases sendOrDisconnect_cases c send answer errno with ⟨-, heq⟩ | ⟨-, -, heq⟩ | ⟨-, -, heq⟩
  · rw [heq]
    exact h.setDisconnected _ _
  · rw [heq]
    exact hprinted.setDisconnected _ _
  · rw [heq]
    exact ⟨(hprinted.wake answer).handler, (hprinted.wake answer).owed⟩

theorem Announced.invoke (h : Announced pending c) (a : Awaiting) (status : UInt16) (cause : Cause) :
    Announced pending (c.invoke a status cause) := by
  rcases invoke_cases c a status cause with
    ⟨-, heq⟩ | ⟨handler, -, heq | ⟨reason, code, heq⟩ | ⟨-, -, heq⟩⟩
  · rw [heq]
    exact h
  · rw [heq]
    exact h.emit rfl rfl
  · rw [heq]
    exact (h.emit rfl rfl).setDisconnected reason code
  · rw [heq]
    exact (h.emit rfl rfl).setState _

theorem Announced.handleMessage (h : Announced pending c) (e : Env) :
    Announced pending (handleMessage e c) := by
  have hreceived : Announced pending (c.emit (.received c.message)) := h.emit rfl rfl
  have hreceive (m : Message) : Announced pending (c.receive m) :=
    ⟨hreceived.handler, hreceived.owed⟩
  rcases handleMessage_cases e (c := c) with
    ⟨heq, -⟩ | ⟨m, heq | ⟨handler, id, name, args, data, heq⟩ | ⟨id, status, heq⟩⟩
  · rw [heq]
    refine foldl_invoke (P := Announced pending) (fun c' a h' => h'.invoke a _ _) _ ?_
    exact ⟨hreceived.handler, hreceived.owed⟩
  · rw [heq]
    exact hreceive m
  · rw [heq]
    exact (hreceive m).emit rfl rfl
  · rw [heq]
    exact (hreceive m).sendOrDisconnect _ _ _

theorem Announced.parse (h : Announced pending c) (e : Env) (d : UInt8) :
    Announced pending (parse (Blynk.handleMessage e) c d).1 := by
  obtain ⟨c', hparse | hparse, -, hrest⟩ := parse_cases c d
  · rw [hparse]
    exact ⟨hrest ▸ h.handler, hrest ▸ h.owed⟩
  · rw [hparse]
    have hc' : Announced pending c' := ⟨hrest ▸ h.handler, hrest ▸ h.owed⟩
    exact ⟨(hc'.handleMessage e).handler, (hc'.handleMessage e).owed⟩

theorem Announced.serialize (h : Announced pending c) (ctl : Ctl) (queue : List Ctl)
    (requests : Requests) (id : UInt16) :
    Announced pending (((c.dequeue ctl queue).withRequests requests).serialize ctl id) := by
  have htaken : Announced pending (c.emit (.taken ctl)) := h.emit rfl rfl
  have hframe : Announced pending ((c.emit (.taken ctl)).emit (.frame ctl id)) := htaken.emit rfl rfl
  exact ⟨hframe.handler, hframe.owed⟩

/-- A step of the task makes no report: it leaves those that follow from its writes due. -/
theorem announced_turn {s : Sys} {e : Env} {pc : Pc} (h : Turn s e c pc)
    (hs : Announced pending s.client) : Announced pending c := by
  cases h with
  | ended => exact hs
  | move => exact hs
  | unreachable => exact hs.setDisconnected _ _
  | fail => exact hs.setDisconnected _ _
  | connect => exact hs.emit rfl rfl
  | setConnected => exact hs.setState _
  | reset => exact ⟨hs.handler, hs.owed⟩
  | advancePing => exact ⟨hs.handler, hs.owed⟩
  | login => exact hs.sendOrDisconnect _ _ _
  | @noId ctl queue requests =>
    have htaken : Announced pending (s.client.emit (.taken ctl)) := hs.emit rfl rfl
    have hfreed : Announced pending ((s.client.dequeue ctl queue).withRequests requests) :=
      ⟨htaken.handler, htaken.owed⟩
    exact hfreed.setDisconnected _ _
  | takeNew => exact hs.serialize _ _ _ _
  | @takeAnswer ctl queue => exact hs.serialize ctl queue s.client.rest.requests _
  | @expire ready now i requests =>
    have hfreed : Announced pending (s.client.withRequests requests) := ⟨hs.handler, hs.owed⟩
    exact hfreed.invoke _ _ _
  | ping =>
    have hadvance : Announced pending s.client.advancePing := ⟨hs.handler, hs.owed⟩
    exact hadvance.sendOrDisconnect _ _ _
  | datagram =>
    unfold Client.readDatagram
    split_ifs
    · exact ⟨hs.handler, hs.owed⟩
    · exact hs
  | parse => exact hs.parse _ _
  | write =>
    have hsent : Announced pending (s.client.emit (.sent ((writtenBytes e).take e.accepted))) :=
      hs.emit rfl rfl
    exact ⟨hsent.handler, hsent.owed⟩

end Client

/-! ## The system -/

/-- The state that a thread in `blynk_start` has still to report. There is at most one such thread:
the client is started only once. -/
inductive Sys.Owes (s : Sys) : List BlynkState → Prop
  | nobody (hnone : ∀ t ev, s.senders t ≠ .reporting ev) : s.Owes []
  | starter {t : Nat} {ev : StateEvt} (hsender : s.senders t = .reporting ev)
    (hev : ev.state = .disconnected) (hother : ∀ t', t' ≠ t → ∀ ev', s.senders t' ≠ .reporting ev')
    (hpc : s.pc ≠ .absent) : s.Owes [.disconnected]

structure Sys.Announcing (s : Sys) : Prop where
  consistent : s.Consistent
  unstarted : s.pc = .absent → s.client.rest.reports = []
  owes : ∃ pending, s.Owes pending ∧ Announced pending s.client

theorem Sys.Owes.congr {s s' : Sys} {pending : List BlynkState} (h : s.Owes pending)
    (hsenders : s'.senders = s.senders) (hpc : s.pc ≠ .absent → s'.pc ≠ .absent) :
    s'.Owes pending := by
  cases h with
  | nobody hnone =>
    refine .nobody ?_
    rw [hsenders]
    exact hnone
  | starter hsender hev hother hat =>
    refine .starter (hsenders ▸ hsender) hev ?_ (hpc hat)
    rw [hsenders]
    exact hother

/-- A thread that is not the one that reports goes on. -/
theorem Sys.Owes.setSender {s : Sys} {pending : List BlynkState} (h : s.Owes pending) {t : Nat}
    {p : Sender} (hold : ∀ ev, s.senders t ≠ .reporting ev) (hnew : ∀ ev, p ≠ .reporting ev)
    (c : Client Rest) : ({ s with client := c }.setSender t p).Owes pending := by
  have hset : ∀ t', (∀ ev, s.senders t' ≠ .reporting ev) →
      ∀ ev, Function.update s.senders t p t' ≠ .reporting ev := by
    intro t' ht'
    rcases eq_or_ne t' t with rfl | hne
    · rw [Function.update_self]
      exact hnew
    · rw [Function.update_of_ne hne]
      exact ht'
  cases h with
  | nobody hnone => exact .nobody fun t' => hset t' (hnone t')
  | @starter r ev hsender hev hother hat =>
    have hne : r ≠ t := by
      intro heq
      rw [heq] at hsender
      exact hold ev hsender
    refine .starter (t := r) ?_ hev (fun t' ht' => hset t' (hother t' ht')) hat
    show Function.update s.senders t p r = _
    rw [Function.update_of_ne hne]
    exact hsender

theorem agree_of_announcing {s : Sys} (hs : s.Announcing) : s.ReportsAgree := by
  obtain ⟨pending, howes, hann⟩ := hs.owes
  have hcomplete : s.quiet → reported s.client.rest.log = written s.client.rest.log := by
    intro hquiet
    have howed := hann.owed
    cases howes with
    | nobody =>
      rw [hquiet.1] at howed
      simpa using howed.symm
    | starter hsender => exact absurd hsender (hquiet.2 _ _)
  refine ⟨?_, hcomplete, fun hquiet => ?_⟩
  · rw [hann.owed, List.append_assoc]
    exact List.prefix_append _ _
  · rw [hcomplete hquiet, ← lastState_eq]
    exact hs.consistent.authenticating.client.current

/-- The task reports in its turn: as long as `blynk_start` has its own report before it, it can
report nothing else. -/
def ReportsInTurn (s : Sys) : Input → Prop
  | .task _ =>
    match s.client.rest.reports with
    | [] => True
    | ev :: _ => (∃ t ev', s.senders t = .reporting ev') → ev.state = .disconnected
  | _ => True

/-- The state handler stays registered. -/
def Input.keepsHandler : Input → Bool
  | .call _ (.setStateHandler registered) => registered
  | _ => true

theorem reported_report (ev : StateEvt) (es : List Event) :
    reported (.report ev :: es) = reported es ++ [ev.state] :=
  inOrder_cons _ _ _

theorem written_report (ev : StateEvt) (es : List Event) : written (.report ev :: es) = written es := by
  unfold written
  rw [inOrder_cons]
  exact List.append_nil _

/-- The task reports; the state that `blynk_start` has to report is the same, if there is one. -/
theorem Announced.report {pending : List BlynkState} {c : Client Rest} {ev : StateEvt}
    {evs : List StateEvt} (h : Announced pending c) (hreports : c.rest.reports = ev :: evs)
    (hpending : pending = [] ∨ pending = [ev.state]) : Announced pending (c.report ev evs) := by
  refine ⟨h.handler, ?_⟩
  show written (.report ev :: c.rest.log)
    = reported (.report ev :: c.rest.log) ++ pending ++ evs.map StateEvt.state
  rw [written_report, reported_report, h.owed, hreports]
  rcases hpending with rfl | rfl
  · simp
  · simp

/-- `blynk_start` reports. -/
theorem Announced.started {c : Client Rest} {ev : StateEvt} (h : Announced [ev.state] c) :
    Announced [] (c.emit (.report ev)) := by
  refine ⟨h.handler, ?_⟩
  show written (.report ev :: c.rest.log)
    = reported (.report ev :: c.rest.log) ++ [] ++ c.rest.reports.map StateEvt.state
  rw [written_report, reported_report, h.owed, List.append_nil]

theorem turn_of_absent {s : Sys} {e : Env} {c : Client Rest} {pc : Pc} (h : Turn s e c pc)
    (hpc : s.pc = .absent) : c = s.client := by
  cases h with
  | ended => rfl
  | move => rfl
  | unreachable hat => rcases hat with hat | hat <;> cases hpc.symm.trans hat
  | fail hat =>
    rw [hpc] at hat
    cases hat
  | connect hat | setConnected hat | reset hat | advancePing hat | login hat | noId hat
  | takeNew hat | takeAnswer hat | expire hat | ping hat | datagram hat | parse hat | write hat =>
    cases hpc.symm.trans hat

theorem unstarted_step {s s' : Sys} {i : Input} (h : Step s i s')
    (hs : s.pc = .absent → s.client.rest.reports = []) :
    s'.pc = .absent → s'.client.rest.reports = [] := by
  intro hpc
  cases h with
  | report e hreports =>
    rw [hs hpc] at hreports
    cases hreports
  | turn _ hturn _ =>
    rcases turn_ended hturn (Or.inl hpc) with hsame | ⟨-, hend⟩
    · have habsent := hsame.trans hpc
      rw [turn_of_absent hturn habsent]
      exact hs habsent
    · cases hpc.symm.trans hend
  | start => cases hpc
  | @wake t answer req _ _ =>
    obtain ⟨unread, heq⟩ := wake_eq s.client answer
    show (s.client.wake answer).rest.reports = []
    rw [heq]
    exact hs hpc
  | _ => exact hs hpc

theorem owes_task {s : Sys} (hs : s.Announcing) {e : Env} (hturn : ReportsInTurn s (.task e)) :
    ∃ pending, (s.task e).Owes pending ∧ Announced pending (s.task e).client := by
  obtain ⟨pending, howes, hann⟩ := hs.owes
  refine ⟨pending, ?_⟩
  unfold Sys.task
  cases hreports : s.client.rest.reports with
  | nil =>
    obtain ⟨c, pc, opt, hloop, heq⟩ := s.blynkLoop_turn e
    show (s.blynkLoop e).Owes pending ∧ Announced pending (s.blynkLoop e).client
    rw [heq]
    refine ⟨howes.congr rfl fun hpc habsent => ?_, announced_turn hloop hann⟩
    rcases turn_ended hloop (Or.inl habsent) with hsame | ⟨-, hend⟩
    · exact hpc (hsame.trans habsent)
    · rw [show pc = .absent from habsent] at hend
      cases hend
  | cons ev evs =>
    unfold ReportsInTurn at hturn
    rw [hreports] at hturn
    refine ⟨howes.congr rfl id, hann.report hreports ?_⟩
    cases howes with
    | nobody => exact Or.inl rfl
    | starter hsender =>
      rw [show ev.state = .disconnected from hturn ⟨_, _, hsender⟩]
      exact Or.inr rfl

/-- `blynk_start` writes the state, and reports it later. -/
theorem owes_start {s : Sys} (hs : s.Announcing) (t : Nat) (created : Bool) :
    ∃ pending, (s.blynkStart t created).Owes pending
      ∧ Announced pending (s.blynkStart t created).client := by
  obtain ⟨pending, howes, hann⟩ := hs.owes
  unfold Sys.blynkStart
  rcases eq_or_ne s.client.state .stopped with hstate | hstate
  · rw [if_neg (not_not.mpr hstate)]
    cases created with
    | false => exact ⟨pending, howes, hann⟩
    | true =>
      have hnone : ∀ t ev, s.senders t ≠ .reporting ev := by
        cases howes with
        | nobody hnone => exact hnone
        | starter _ _ _ hpc => exact absurd (pc_of_stopped hs.consistent.phase hstate) hpc
      have hpending : pending = [] := by
        cases howes with
        | nobody => rfl
        | starter hsender => exact absurd hsender (hnone _ _)
      simp only [if_true, hann.handler]
      refine ⟨[.disconnected], ?_, hann.handler, ?_⟩
      · refine .starter (t := t) (Function.update_self ..) rfl (fun t' ht' ev' => ?_) Pc.noConfusion
        show Function.update s.senders t _ t' ≠ _
        rw [Function.update_of_ne ht']
        exact hnone t' ev'
      · have howed := hann.owed
        rw [hpending, hs.unstarted (pc_of_stopped hs.consistent.phase hstate)] at howed
        show written (.state .blynkStart s.client.state .disconnected :: s.client.rest.log)
          = reported (.state .blynkStart s.client.state .disconnected :: s.client.rest.log)
            ++ [.disconnected] ++ s.client.rest.reports.map StateEvt.state
        rw [hs.unstarted (pc_of_stopped hs.consistent.phase hstate)]
        unfold written reported at howed ⊢
        rw [inOrder_cons, inOrder_cons, howed]
        simp [Event.newState, Event.reportedState]
  · rw [if_pos hstate]
    exact ⟨pending, howes, hann⟩

theorem owes_call {s : Sys} (hs : s.Announcing) {t : Nat} (hidle : s.senders t = .idle) {a : ApiCall}
    (hkeeps : (Input.call t a).keepsHandler = true) :
    ∃ pending, (s.call t a).Owes pending ∧ Announced pending (s.call t a).client := by
  obtain ⟨pending, howes, hann⟩ := hs.owes
  have hnot : ∀ ev, s.senders t ≠ .reporting ev := by
    rw [hidle]
    exact fun _ => Sender.noConfusion
  cases a with
  | send k =>
    rw [Sys.call]
    cases blynkSendWithCallbackV s.client.state k with
    | ok send => exact ⟨pending, howes.setSender hnot (fun _ => Sender.noConfusion) _, hann⟩
    | error => exact ⟨pending, howes, hann⟩
  | sendResponse =>
    exact ⟨pending, howes.setSender hnot (fun _ => Sender.noConfusion) _, hann⟩
  | setStateHandler => exact ⟨pending, howes.congr rfl id, hkeeps, hann.owed⟩
  | start created => exact owes_start hs t created
  | _ => exact ⟨pending, howes.congr rfl id, hann.handler, hann.owed⟩

/-- The thread that has a report to make is the one that started the client, and owes nothing
behind it. -/
theorem Sys.Owes.paid {s : Sys} {pending : List BlynkState} {t : Nat} {ev : StateEvt}
    (h : s.Owes pending) (hsender : s.senders t = .reporting ev) :
    pending = [ev.state] ∧ ∀ c, ({ s with client := c }.setSender t .idle).Owes [] := by
  cases h with
  | nobody hnone => exact absurd hsender (hnone t ev)
  | @starter r ev' hreporter hev hother hpc =>
    have heq : t = r := by
      rcases eq_or_ne t r with heq | hne
      · exact heq
      · exact absurd hsender (hother t hne ev)
    subst heq
    rw [hsender] at hreporter
    cases hreporter
    refine ⟨congrArg (fun e => [e]) hev.symm, fun c => .nobody fun t' ev' => ?_⟩
    show Function.update s.senders t .idle t' ≠ _
    rcases eq_or_ne t' t with rfl | hne
    · rw [Function.update_self]
      exact Sender.noConfusion
    · rw [Function.update_of_ne hne]
      exact hother t' hne ev'

theorem owes_proceed {s : Sys} (hs : s.Announcing) (t : Nat) (answer : CtlWrite) :
    ∃ pending, (s.proceed t answer).Owes pending
      ∧ Announced pending (s.proceed t answer).client := by
  obtain ⟨pending, howes, hann⟩ := hs.owes
  have hkeep (hnot : ∀ ev, s.senders t ≠ .reporting ev) {p : Sender} (hp : ∀ ev, p ≠ .reporting ev)
      {c : Client Rest} (hc : Announced pending c) :
      ∃ pending, ({ s with client := c }.setSender t p).Owes pending
        ∧ Announced pending ({ s with client := c }.setSender t p).client :=
    ⟨pending, howes.setSender hnot hp c, hc⟩
  unfold Sys.proceed
  cases hsender : s.senders t with
  | idle => exact ⟨pending, howes, hann⟩
  | checked send =>
    exact hkeep (by simp [hsender]) (fun _ => Sender.noConfusion) hann
  | ready ctl =>
    have hnot : ∀ ev, s.senders t ≠ .reporting ev := by simp [hsender]
    simp only
    split_ifs
    · exact hkeep hnot (fun _ => Sender.noConfusion) (hann.enqueue ctl)
    · exact hkeep hnot (fun _ => Sender.noConfusion) hann
    · exact ⟨pending, howes, hann⟩
  | queued req =>
    exact hkeep (by simp [hsender]) (fun _ => Sender.noConfusion) ⟨hann.handler, hann.owed⟩
  | printed req =>
    have hnot : ∀ ev, s.senders t ≠ .reporting ev := by simp [hsender]
    simp only
    split_ifs
    · exact hkeep hnot (fun _ => Sender.noConfusion) hann
    · exact hkeep hnot (fun _ => Sender.noConfusion) (hann.wake answer)
  | written =>
    exact hkeep (by simp [hsender]) (fun _ => Sender.noConfusion) ⟨hann.handler, hann.owed⟩
  | reporting ev =>
    obtain ⟨hev, hidle⟩ := howes.paid hsender
    rw [hev] at hann
    exact ⟨[], hidle _, hann.started⟩

theorem announcing_step {s : Sys} (hs : s.Announcing) {i : Input} (hkeeps : i.keepsHandler = true)
    (hturn : ReportsInTurn s i) : (s.step i).Announcing := by
  refine ⟨consistent_step (s.step_step i) hs.consistent, unstarted_step (s.step_step i) hs.unstarted, ?_⟩
  cases i with
  | tick n =>
    obtain ⟨pending, howes, hann⟩ := hs.owes
    exact ⟨pending, howes.congr rfl id, hann.handler, hann.owed⟩
  | task e => exact owes_task hs hturn
  | call t a =>
    rw [Sys.step]
    split_ifs with hidle
    · exact owes_call hs hidle hkeeps
    · exact hs.owes
  | proceed t answer => exact owes_proceed hs t answer

/-- A report out of turn is one that the writes do not start with. -/
theorem inTurn_of_agree {s : Sys} (hs : s.Announcing) {i : Input} (h : (s.step i).ReportsAgree) :
    ReportsInTurn s i := by
  cases i with
  | task e =>
    unfold ReportsInTurn
    cases hreports : s.client.rest.reports with
    | nil => trivial
    | cons ev evs =>
      intro hreporter
      obtain ⟨t, ev', hsender⟩ := hreporter
      obtain ⟨pending, howes, hann⟩ := hs.owes
      have horder := h.order
      rw [show s.step (.task e) = { s with client := s.client.report ev evs } by
        show s.task e = _
        unfold Sys.task
        rw [hreports]
        rfl] at horder
      change reported (.report ev :: s.client.rest.log) <+: written (.report ev :: s.client.rest.log)
        at horder
      cases howes with
      | nobody hnone => exact absurd hsender (hnone t ev')
      | starter =>
        rw [written_report, reported_report, hann.owed, List.append_assoc,
          List.prefix_append_right_inj] at horder
        exact (List.cons_prefix_cons.mp horder).1
  | _ => trivial

/-! ## All runs -/

/-- The client with a state handler, before it is started. -/
def Sys.watched (pair : Int × Int) : Sys := (Sys.init pair).step (.call 0 (.setStateHandler true))

theorem announcing_watched (pair : Int × Int) : (Sys.watched pair).Announcing where
  consistent := consistent_step (Sys.step_step _ _) (consistent_init pair)
  unstarted := fun _ => rfl
  owes := ⟨[], .nobody fun _ _ => Sender.noConfusion, rfl, rfl⟩

/-- **Reports.** With one state handler registered for a whole run of the system, the reports are
the writes of the state in their order, and the last one is the state whenever no call of the
handler is due, if and only if the task never reports another state than `DISCONNECTED` while
`blynk_start` has still to call the handler. -/
theorem reports_agree_run (pair : Int × Int) (is : List Input)
    (hkeeps : ∀ i ∈ is, i.keepsHandler = true) :
    AllSteps (silent Sys.step) (fun s i => (s.step i).ReportsAgree) (Sys.watched pair) is
      ↔ AllSteps (silent Sys.step) ReportsInTurn (Sys.watched pair) is := by
  have hfixed : AllSteps (silent Sys.step) (fun _ i => i.keepsHandler = true) (Sys.watched pair) is :=
    .of_forall_mem hkeeps _
  have hagree : ∀ s i, s.Announcing → i.keepsHandler = true →
      ((s.step i).ReportsAgree ↔ ReportsInTurn s i) := by
    intro s i hs hi
    exact ⟨inTurn_of_agree hs, fun hturn => agree_of_announcing (announcing_step hs hi hturn)⟩
  have hiff : AllSteps (silent Sys.step)
        (fun s i => (s.step i).ReportsAgree ∧ i.keepsHandler = true) (Sys.watched pair) is
      ↔ AllSteps (silent Sys.step)
        (fun s i => ReportsInTurn s i ∧ i.keepsHandler = true) (Sys.watched pair) is :=
    allSteps_iff_of_inv (I := Sys.Announcing)
      (fun s i hs h => announcing_step hs h.2 ((hagree s i hs h.2).mp h.1))
      (fun s i hs => and_congr_left (hagree s i hs)) (announcing_watched pair)
  constructor
  · intro h
    exact (hiff.mp (h.and hfixed)).mono fun _ _ h => h.1
  · intro h
    exact (hiff.mpr (h.and hfixed)).mono fun _ _ h => h.1

/-- The server is not found before `blynk_start` has made its call: two reports of the same state. -/
def unresolvedStart : List Input :=
  [.call 0 (.setOptions sampleOptions), .call 0 (.start true), .task {}, .task { lookup := 1 },
    .task {}, .proceed 0 .delivered]

theorem reports_agree_unresolved :
    (∀ i ∈ unresolvedStart, i.keepsHandler = true)
      ∧ AllSteps (silent Sys.step) (fun s i => (s.step i).ReportsAgree) (Sys.watched (3, 4))
        unresolvedStart := by
  have hkeeps : ∀ i ∈ unresolvedStart, i.keepsHandler = true := by decide
  refine ⟨hkeeps, (reports_agree_run (3, 4) unresolvedStart hkeeps).mpr ?_⟩
  exact ⟨trivial, trivial, trivial, trivial, fun _ => rfl, trivial, trivial⟩

/-- The task connects, and reports it, before `blynk_start` makes its call. -/
def overtakenStart : List Input :=
  [.call 0 (.setOptions sampleOptions), .call 0 (.start true)] ++ List.replicate 5 (.task {})
    ++ [.proceed 0 .delivered]

theorem overtaken_reports :
    ¬ AllSteps (silent Sys.step) (fun s i => (s.step i).ReportsAgree) (Sys.watched (3, 4))
      overtakenStart := by
  intro h
  have horder := h.2.2.2.2.2.2.1.order
  revert horder
  decide +kernel

/-- The application is left with `DISCONNECTED`, the client is connected. -/
example :
    let s := (run (silent Sys.step) (Sys.watched (3, 4)) overtakenStart).1
    reported s.client.rest.log = [.connected, .disconnected]
      ∧ written s.client.rest.log = [.disconnected, .connected] ∧ s.client.state = .connected := by
  decide +kernel

end ControlFan.Blynk
