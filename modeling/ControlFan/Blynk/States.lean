import ControlFan.Blynk.Correlation

/-!
# Blynk — the connection state machine

`STOPPED`, `DISCONNECTED`, `CONNECTED`, `AUTHENTICATED`: the state is written by `blynk_start`, by
`set_state` and by `set_disconnected`. What makes the last step of the machine safe is that the
callback of the login can run only once on a connection, for a response that carries the id of
this connection's login.

* **`StateRule`** — what may write the state, and when;
* **`Logins`** — there is one login on a connection, and what is sent and answered as a login is it;
* **`Authentic`** — the state, the log and the queue fit together;
* **`states_run`** — the rule holds in every run, and `blynk_loop` returns only disconnected.
-/

namespace ControlFan.Blynk

open Machine Slots

/-! ## The contract -/

def Event.newState : Event → Option BlynkState
  | .state _ _ new => some new
  | _ => none

/-- The state that the last write left. -/
def lastState (es : List Event) : BlynkState := (es.findSome? Event.newState).getD .stopped

/-- The message is a login of the client itself. -/
def Ctl.isLogin (ctl : Ctl) : Bool := ctl.handler == some .authCb

/-- The connection was not authenticated before, and a response with status 200 has just called the
callback of its one login. -/
def Authenticates (es : List Event) : Prop :=
  (∀ writer old, .state writer old .authenticated ∉ session es)
    ∧ ∃ ctl m data es',
      es = .invoked ctl.req .authCb blynkStatusSuccess data .message :: .received m :: es'
      ∧ m.command = blynkCmdResponse ∧ m.len = blynkStatusSuccess
      ∧ ctl.isLogin = true ∧ ctl.message.command = blynkCmdLogin
      ∧ .queued ctl ∈ session es ∧ .frame ctl m.id ∈ session es
      ∧ ∀ ctl', .queued ctl' ∈ session es → ctl'.isLogin = true → ctl' = ctl

/-- What may write the state, and when. -/
def StateRule (es : List Event) : Event → Prop
  | .state writer old new =>
    old = lastState es
      ∧ match writer, old, new with
        | .blynkStart, .stopped, .disconnected => True
        | .setState, .disconnected, .connected => True
        | .setState, .connected, .authenticated => Authenticates es
        | .setDisconnected, old, .disconnected => old ≠ .stopped
        | _, _, _ => False
  | _ => True

/-! ## The login of a connection -/

/-- A login that is in the queue and whose callback has run. -/
def LoginUsed (es : List Event) : Prop :=
  ∃ ctl, .queued ctl ∈ es ∧ ctl.isLogin = true ∧ ∃ e ∈ es, e.invokes = some ctl.req

theorem LoginUsed.cons {es : List Event} (h : LoginUsed es) (e : Event) : LoginUsed (e :: es) := by
  obtain ⟨ctl, hctl, hlogin, e', he', hinvokes⟩ := h
  exact ⟨ctl, List.mem_cons_of_mem _ hctl, hlogin, e', List.mem_cons_of_mem _ he', hinvokes⟩

/-- The logins in the events of a connection and in the queue, if the queue belongs to it. -/
structure Logins (es : List Event) (live : Bool) (queue : List Ctl) : Prop where
  command : ∀ ctl, .queued ctl ∈ es → ctl.isLogin = true → ctl.message.command = blynkCmdLogin
  unique : ∀ ctl ctl', .queued ctl ∈ es → .queued ctl' ∈ es → ctl.isLogin = true →
    ctl'.isLogin = true → ctl' = ctl
  waiting : live = true → ∀ ctl ∈ queue, ctl.isLogin = true → .queued ctl ∈ es
  sent : ∀ ctl id, .frame ctl id ∈ es → ctl.isLogin = true → .queued ctl ∈ es
  -- an authentication is the work of a callback
  used : ∀ writer old, .state writer old .authenticated ∈ es → LoginUsed es

section Logins

variable {es : List Event} {live : Bool} {queue : List Ctl}

theorem Logins.used_cons (h : Logins es live queue) {e : Event}
    (hstate : e.newState = some .authenticated → LoginUsed es) :
    ∀ writer old, .state writer old .authenticated ∈ e :: es → LoginUsed (e :: es) := by
  intro writer old hmem
  rcases List.mem_cons.mp hmem with heq | hold
  · exact (hstate (by rw [← heq]; rfl)).cons e
  · exact (h.used writer old hold).cons e

/-- An event that is neither a login in the queue nor a frame. -/
theorem Logins.cons (h : Logins es live queue) {e : Event}
    (hqueued : ∀ ctl, e = .queued ctl → ctl.isLogin = false) (hframe : ∀ ctl id, e ≠ .frame ctl id)
    (hstate : e.newState = some .authenticated → LoginUsed es) : Logins (e :: es) live queue := by
  have hold : ∀ ctl, .queued ctl ∈ e :: es → ctl.isLogin = true → .queued ctl ∈ es := by
    intro ctl hmem hlogin
    refine List.mem_of_ne_of_mem ?_ hmem
    intro heq
    rw [hqueued ctl heq.symm] at hlogin
    cases hlogin
  refine ⟨fun ctl hmem hlogin => h.command ctl (hold ctl hmem hlogin) hlogin,
    fun ctl ctl' hmem hmem' hlogin hlogin' => ?_, fun hlive ctl hctl hlogin => ?_,
    fun ctl id hmem hlogin => ?_, h.used_cons hstate⟩
  · exact h.unique ctl ctl' (hold ctl hmem hlogin) (hold ctl' hmem' hlogin') hlogin hlogin'
  · exact List.mem_cons_of_mem _ (h.waiting hlive ctl hctl hlogin)
  · exact List.mem_cons_of_mem _
      (h.sent ctl id (List.mem_of_ne_of_mem (hframe ctl id).symm hmem) hlogin)

theorem logins_nil (queue : List Ctl) : Logins [] false queue :=
  ⟨fun _ h => (by cases h), fun _ _ h => (by cases h), fun h => (by cases h), fun _ _ h => (by cases h),
    fun _ _ h => (by cases h)⟩

theorem Logins.weaken (h : Logins es live queue) (queue' : List Ctl) : Logins es false queue' :=
  ⟨h.command, h.unique, fun hlive => (by cases hlive), h.sent, h.used⟩

theorem Logins.reset (h : Logins es live queue) : Logins es true [] :=
  ⟨h.command, h.unique, fun _ _ hctl => (by cases hctl), h.sent, h.used⟩

/-- Any other message goes to the end of the queue. -/
theorem Logins.enqueue (h : Logins es live queue) {ctl : Ctl} (hctl : ctl.isLogin = false) :
    Logins (.queued ctl :: es) live (queue ++ [ctl]) := by
  have hcons : Logins (.queued ctl :: es) live queue := by
    refine h.cons (fun ctl' heq => ?_) (fun _ _ => by simp) (by simp [Event.newState])
    cases heq
    exact hctl
  refine ⟨hcons.command, hcons.unique, fun hlive ctl' hmem hlogin => ?_, hcons.sent, hcons.used⟩
  rcases List.mem_append.mp hmem with hold | hnew
  · exact hcons.waiting hlive ctl' hold hlogin
  · rw [List.mem_singleton.mp hnew, hctl] at hlogin
    cases hlogin

/-- The login goes to the end of the queue; it is the first one of the connection. -/
theorem Logins.login (h : Logins es live queue) {ctl : Ctl}
    (hnone : ∀ ctl', .queued ctl' ∈ es → ctl'.isLogin = false)
    (hcmd : ctl.message.command = blynkCmdLogin) :
    Logins (.queued ctl :: es) live (queue ++ [ctl]) := by
  have hnew : ∀ ctl', .queued ctl' ∈ Event.queued ctl :: es → ctl'.isLogin = true → ctl' = ctl := by
    intro ctl' hmem hlogin
    rcases List.mem_cons.mp hmem with heq | hold
    · cases heq
      rfl
    · rw [hnone ctl' hold] at hlogin
      cases hlogin
  refine ⟨fun ctl' hmem hlogin => ?_, fun c c' hmem hmem' hlogin hlogin' => ?_,
    fun hlive ctl' hmem hlogin => ?_, fun ctl' id hmem hlogin => ?_,
    h.used_cons (by simp [Event.newState])⟩
  · rw [hnew ctl' hmem hlogin]
    exact hcmd
  · rw [hnew c hmem hlogin, hnew c' hmem' hlogin']
  · rcases List.mem_append.mp hmem with hold | hlast
    · exact List.mem_cons_of_mem _ (h.waiting hlive ctl' hold hlogin)
    · rw [List.mem_singleton.mp hlast]
      exact List.mem_cons_self
  · exact List.mem_cons_of_mem _ (h.sent ctl' id (List.mem_of_ne_of_mem (by simp) hmem) hlogin)

/-- The first message of the queue is sent. -/
theorem Logins.frame {ctl : Ctl} (h : Logins es true (ctl :: queue)) (id : UInt16) :
    Logins (.frame ctl id :: es) true queue := by
  have hqueued : ∀ c, .queued c ∈ Event.frame ctl id :: es → .queued c ∈ es :=
    fun c hmem => List.mem_of_ne_of_mem (by simp) hmem
  refine ⟨fun c hmem => h.command c (hqueued c hmem),
    fun c c' hmem hmem' => h.unique c c' (hqueued c hmem) (hqueued c' hmem'),
    fun hlive c hc hlogin => ?_, fun c i hmem hlogin => ?_, h.used_cons (by simp [Event.newState])⟩
  · exact List.mem_cons_of_mem _ (h.waiting hlive c (List.mem_cons_of_mem _ hc) hlogin)
  · rcases List.mem_cons.mp hmem with heq | hold
    · cases heq
      exact List.mem_cons_of_mem _ (h.waiting rfl _ List.mem_cons_self hlogin)
    · exact List.mem_cons_of_mem _ (h.sent c i hold hlogin)

end Logins

/-! ## The client -/

/-- The client, with its queue belonging to the connection or not. -/
structure Authentic (live : Bool) (c : Client Rest) : Prop where
  explained : Explained StateRule c.rest.log
  current : c.state = lastState c.rest.log
  logins : Logins (session c.rest.log) live c.rest.queue
  authed : c.state = .authenticated →
    ∃ writer old, .state writer old .authenticated ∈ session c.rest.log

/-- Events that have nothing to do with states and logins. -/
def Event.neutral : Event → Bool
  | .taken _ => true
  | .sent _ => true
  | .received _ => true
  | .invoked _ _ _ _ _ => true
  | .command _ _ _ _ _ => true
  | .report _ => true
  | _ => false

theorem lastState_cons {e : Event} (he : e.newState = none) (es : List Event) :
    lastState (e :: es) = lastState es := by
  unfold lastState
  rw [List.findSome?_cons, he]

section Client

variable {live : Bool} {c : Client Rest}

theorem Authentic.emit (h : Authentic live c) {e : Event} (he : e.neutral = true) :
    Authentic live (c.emit e) := by
  have hconn : e.isConnected = false := by cases e <;> first | rfl | cases he
  have hnew : e.newState = none := by cases e <;> first | rfl | cases he
  have hrule : StateRule c.rest.log e := by cases e <;> trivial
  have hsession : session (e :: c.rest.log) = e :: session c.rest.log := session_cons hconn _
  refine ⟨⟨hrule, h.explained⟩, ?_, ?_, fun hauth => ?_⟩
  · show c.state = lastState (e :: c.rest.log)
    rw [lastState_cons hnew]
    exact h.current
  · show Logins (session (e :: c.rest.log)) live c.rest.queue
    rw [hsession]
    refine h.logins.cons (fun ctl heq => ?_) (fun ctl id heq => ?_) (by rw [hnew]; simp)
    · rw [heq] at he
      cases he
    · rw [heq] at he
      cases he
  · obtain ⟨writer, old, hmem⟩ := h.authed hauth
    refine ⟨writer, old, ?_⟩
    show _ ∈ session (e :: c.rest.log)
    rw [hsession]
    exact List.mem_cons_of_mem _ hmem

/-- A write of the state that the rule allows; `hused` is for a write of `AUTHENTICATED`. -/
theorem Authentic.write (h : Authentic live c) {c' : Client Rest} {writer : Writer}
    {new : BlynkState} (hlog : c'.rest.log = .state writer c.state new :: c.rest.log)
    (hstate : c'.state = new) (hqueue : c'.rest.queue = c.rest.queue)
    (hrule : StateRule c.rest.log (.state writer c.state new))
    (hused : new = .authenticated → LoginUsed (session c.rest.log)) : Authentic live c' := by
  have hsession : session c'.rest.log = .state writer c.state new :: session c.rest.log := by
    rw [hlog]
    exact session_cons rfl _
  have hcons : Logins (.state writer c.state new :: session c.rest.log) live c.rest.queue :=
    h.logins.cons (fun _ heq => by cases heq) (fun _ _ heq => by cases heq)
      fun hnew => hused (Option.some_inj.mp hnew)
  refine ⟨?_, ?_, ?_, fun hauth => ?_⟩
  · rw [hlog]
    exact ⟨hrule, h.explained⟩
  · rw [hlog, hstate]
    rfl
  · rw [hsession, hqueue]
    exact hcons
  · rw [hstate] at hauth
    refine ⟨writer, c.state, ?_⟩
    rw [hsession, hauth]
    exact List.mem_cons_self

theorem Authentic.setDisconnected (h : Authentic live c) (hc : c.state ≠ .stopped)
    (reason : BlynkErr) (code : Int) : Authentic live (setDisconnected c reason code) := by
  obtain ⟨reports, heq⟩ := setDisconnected_eq c reason code
  rw [heq]
  refine h.write rfl rfl rfl ⟨h.current, ?_⟩ (fun hnew => by cases hnew)
  cases hstate : c.state with
  | stopped => exact absurd hstate hc
  | _ => exact BlynkState.noConfusion

theorem Authentic.setConnected (h : Authentic live c) (hc : c.state = .disconnected) :
    Authentic live (setState c .connected) := by
  obtain ⟨reports, heq⟩ := setState_eq c .connected
  rw [heq]
  refine h.write rfl rfl rfl ⟨h.current, ?_⟩ (fun hnew => by cases hnew)
  rw [hc]
  trivial

theorem Authentic.setAuthenticated (h : Authentic live c) (hc : c.state = .connected)
    (hauth : Authenticates c.rest.log) : Authentic live (setState c .authenticated) := by
  obtain ⟨reports, heq⟩ := setState_eq c .authenticated
  rw [heq]
  refine h.write rfl rfl rfl ⟨h.current, ?_⟩ fun _ => ?_
  · rw [hc]
    exact hauth
  · obtain ⟨-, ctl, m, data, es', hlog, -, -, hlogin, -, hqueued, -, -⟩ := hauth
    refine ⟨ctl, hqueued, hlogin, .invoked ctl.req .authCb blynkStatusSuccess data .message, ?_, rfl⟩
    rw [hlog, session_cons rfl]
    exact List.mem_cons_self

theorem Authentic.enqueue (h : Authentic live c) {ctl : Ctl}
    (hctl : ctl.isLogin = false ∨ ctl.message.command = blynkCmdLogin
      ∧ ∀ ctl', .queued ctl' ∈ session c.rest.log → ctl'.isLogin = false) :
    Authentic live (c.enqueue ctl) := by
  have hlog : (c.enqueue ctl).rest.log = .queued { ctl with req := c.rest.nreq } :: c.rest.log := rfl
  have hsession : session (c.enqueue ctl).rest.log
      = .queued { ctl with req := c.rest.nreq } :: session c.rest.log := session_cons rfl _
  refine ⟨⟨trivial, h.explained⟩, ?_, ?_, fun hauth => ?_⟩
  · rw [hlog, lastState_cons rfl]
    exact h.current
  · rw [hsession]
    rcases hctl with hother | ⟨hcmd, hnone⟩
    · exact h.logins.enqueue hother
    · exact h.logins.login hnone hcmd
  · obtain ⟨writer, old, hmem⟩ := h.authed hauth
    refine ⟨writer, old, ?_⟩
    rw [hsession]
    exact List.mem_cons_of_mem _ hmem

theorem Authentic.sendOrDisconnect (h : Authentic live c) (hc : c.state ≠ .stopped) {send : Send}
    (hsend : (c.ctl send).isLogin = false ∨ (c.ctl send).message.command = blynkCmdLogin
      ∧ ∀ ctl', .queued ctl' ∈ session c.rest.log → ctl'.isLogin = false)
    (answer : CtlWrite) (errno : Int) : Authentic live (c.sendOrDisconnect send answer errno).1 := by
  have hqueued := h.enqueue hsend
  rcases sendOrDisconnect_cases c send answer errno with ⟨-, heq⟩ | ⟨-, -, heq⟩ | ⟨-, -, heq⟩
  · rw [heq]
    exact h.setDisconnected hc _ _
  · rw [heq]
    have hprinted : Authentic live ((c.enqueue (c.ctl send)).printfN privCtr) :=
      ⟨hqueued.explained, hqueued.current, hqueued.logins, hqueued.authed⟩
    exact hprinted.setDisconnected hc _ _
  · rw [heq]
    obtain ⟨unread, hwake⟩ := wake_eq ((c.enqueue (c.ctl send)).printfN privCtr) answer
    unfold Client.sent
    rw [hwake]
    exact ⟨hqueued.explained, hqueued.current, hqueued.logins, hqueued.authed⟩

/-- The login of a connection whose slot is in use has not been answered. -/
theorem Authentic.not_authed (h : Authentic live c) {a : Awaiting} (htracks : Tracks c.rest.log a)
    {ctl : Ctl} (hqueued : .queued ctl ∈ session c.rest.log) (hlogin : ctl.isLogin = true)
    (hreq : ctl.req = a.req) (writer : Writer) (old : BlynkState) :
    .state writer old .authenticated ∉ session c.rest.log := by
  intro hmem
  obtain ⟨ctl', hqueued', hlogin', e, he, hinvokes⟩ := h.logins.used writer old hmem
  rw [h.logins.unique ctl ctl' hqueued hqueued' hlogin hlogin', hreq] at hinvokes
  exact htracks.unanswered e (mem_of_mem_session he) hinvokes

/-- A response handler is called for a slot in use. Only a response in a connection that stands
can carry the status 200. -/
theorem Authentic.invoke (h : Authentic true c) (hc : c.state ≠ .stopped) {a : Awaiting}
    (htracks : Tracks c.rest.log a) {status : UInt16} {cause : Cause}
    (hsuccess : status = blynkStatusSuccess → c.state ≠ .disconnected ∧ cause = .message
      ∧ ∃ m es', c.rest.log = .received m :: es' ∧ m.command = blynkCmdResponse ∧ m.id = a.id
        ∧ m.len = status) : Authentic true (c.invoke a status cause) := by
  rcases invoke_cases c a status cause with ⟨-, heq⟩ | ⟨handler, hhandler, hcall⟩
  · rw [heq]
    exact h
  have hcalled : Authentic true (c.emit (.invoked a.req handler status a.data cause)) := h.emit rfl
  rcases hcall with heq | ⟨reason, code, heq⟩ | ⟨rfl, rfl, heq⟩
  · rw [heq]
    exact hcalled
  · rw [heq]
    exact hcalled.setDisconnected hc reason code
  -- the callback of the login, with status 200
  obtain ⟨hdisc, rfl, m, es', hlog, hcmd, hid, hlen⟩ := hsuccess rfl
  obtain ⟨ctl, hframe, -, hreq, hctl, -, -⟩ := htracks.sent
  have hlogin : ctl.isLogin = true := by
    rw [Ctl.isLogin, hctl, hhandler]
    rfl
  have hqueued := h.logins.sent ctl a.id hframe hlogin
  have hnot := h.not_authed htracks hqueued hlogin hreq
  have hconnected : c.state = .connected := by
    cases hstate : c.state with
    | stopped => exact absurd hstate hc
    | disconnected => exact absurd hstate hdisc
    | connected => rfl
    | authenticated =>
      obtain ⟨writer, old, hmem⟩ := h.authed hstate
      exact absurd hmem (hnot writer old)
  rw [heq]
  refine hcalled.setAuthenticated hconnected ?_
  have hsession : session (c.emit (.invoked a.req .authCb blynkStatusSuccess a.data .message)).rest.log
      = .invoked a.req .authCb blynkStatusSuccess a.data .message :: session c.rest.log :=
    session_cons rfl _
  unfold Authenticates
  rw [hsession]
  refine ⟨fun writer old hmem => hnot writer old (List.mem_of_ne_of_mem (by simp) hmem), ctl, m,
    a.data, es', ?_, hcmd, hlen, hlogin, h.logins.command ctl hqueued hlogin,
    List.mem_cons_of_mem _ hqueued, ?_, fun ctl' hmem hlogin' => ?_⟩
  · rw [hreq, ← hlog]
    rfl
  · rw [hid]
    exact List.mem_cons_of_mem _ hframe
  · exact h.logins.unique ctl ctl' hqueued (List.mem_of_ne_of_mem (by simp) hmem) hlogin hlogin'

theorem Authentic.handleMessage (h : Authentic true c) (hcorr : Correlates true c)
    (hstopped : c.state ≠ .stopped) (hdisc : c.state ≠ .disconnected) (e : Env) :
    Authentic true (handleMessage e c) := by
  have hreceived : Authentic true (c.emit (.received c.message)) := h.emit rfl
  have hout := hcorr.outstanding rfl
  rcases handleMessage_cases e (c := c) with
    ⟨heq, hcmd⟩ | ⟨m, heq | ⟨handler, id, name, args, data, heq⟩ | ⟨id, status, heq⟩⟩
  · have hanswer : Authentic true c.answer :=
      ⟨hreceived.explained, hreceived.current, hreceived.logins, hreceived.authed⟩
    rw [heq]
    rcases hout.sound.answer_cases c.message.id with hnone | ⟨a, ha, hlive, hid, hone⟩
    · rw [hnone]
      exact hanswer
    · rw [hone]
      refine hanswer.invoke hstopped ((hout.slots a ha hlive).cons rfl (by simp [Event.invokes])) ?_
      exact fun _ => ⟨hdisc, rfl, c.message, c.rest.log, rfl, hcmd, hid.symm, rfl⟩
  · rw [heq]
    exact ⟨hreceived.explained, hreceived.current, hreceived.logins, hreceived.authed⟩
  · have hreceive : Authentic true (c.receive m) :=
      ⟨hreceived.explained, hreceived.current, hreceived.logins, hreceived.authed⟩
    rw [heq]
    exact hreceive.emit rfl
  · have hreceive : Authentic true (c.receive m) :=
      ⟨hreceived.explained, hreceived.current, hreceived.logins, hreceived.authed⟩
    rw [heq]
    exact hreceive.sendOrDisconnect hstopped (Or.inl rfl) _ _

theorem Authentic.parse (h : Authentic true c) (hcorr : Correlates true c)
    (hstopped : c.state ≠ .stopped) (hdisc : c.state ≠ .disconnected) (e : Env) (d : UInt8) :
    Authentic true (parse (Blynk.handleMessage e) c d).1 := by
  obtain ⟨c', hparse | hparse, hstate, hrest⟩ := parse_cases c d
  · have hc' : Authentic true c' :=
      ⟨hrest ▸ h.explained, by rw [hstate, hrest]; exact h.current, hrest ▸ h.logins,
        by rw [hstate, hrest]; exact h.authed⟩
    rw [hparse]
    exact hc'
  · have hc' : Authentic true c' :=
      ⟨hrest ▸ h.explained, by rw [hstate, hrest]; exact h.current, hrest ▸ h.logins,
        by rw [hstate, hrest]; exact h.authed⟩
    have hcorr' : Correlates true c' := ⟨hrest ▸ hcorr.tracked, hrest ▸ hcorr.outstanding⟩
    have hhandle := hc'.handleMessage hcorr' (hstate ▸ hstopped) (hstate ▸ hdisc) e
    rw [hparse]
    exact ⟨hhandle.explained, hhandle.current, hhandle.logins, hhandle.authed⟩

end Client

/-! ## The system -/

/-- A connection whose login is still to come. -/
def Pc.beforeLogin : Pc → Bool
  | .setConnected => true
  | .reset => true
  | .advancePing => true
  | .login => true
  | _ => false

/-- No login is among the events of the current connection. -/
def Unsent (log : List Event) : Prop := ∀ ctl, .queued ctl ∈ session log → ctl.isLogin = false

structure Sys.Authenticating (s : Sys) : Prop where
  client : Authentic s.pc.live s.client
  unsent : s.pc.beforeLogin = true → Unsent s.client.rest.log

theorem Unsent.cons {log : List Event} (h : Unsent log) {e : Event} (hconn : e.isConnected = false)
    (he : ∀ ctl, e = .queued ctl → ctl.isLogin = false) : Unsent (e :: log) := by
  intro ctl hmem
  rw [session_cons hconn] at hmem
  rcases List.mem_cons.mp hmem with heq | hold
  · exact he ctl heq.symm
  · exact h ctl hold

theorem Authentic.weaken {live : Bool} {c : Client Rest} (h : Authentic live c) :
    Authentic false c :=
  ⟨h.explained, h.current, h.logins.weaken _, h.authed⟩

/-- A message is taken and sent. -/
theorem Authentic.serialize {c : Client Rest} (h : Authentic true c) {ctl : Ctl} {queue : List Ctl}
    (hqueue : c.rest.queue = ctl :: queue) (requests : Requests) (id : UInt16) :
    Authentic true (((c.dequeue ctl queue).withRequests requests).serialize ctl id) := by
  have hsession : session (.frame ctl id :: .taken ctl :: c.rest.log)
      = .frame ctl id :: .taken ctl :: session c.rest.log := by
    rw [session_cons rfl, session_cons rfl]
  have htaken : Logins (.taken ctl :: session c.rest.log) true (ctl :: queue) := by
    rw [← hqueue]
    exact h.logins.cons (fun _ heq => by cases heq) (fun _ _ heq => by cases heq)
      (by simp [Event.newState])
  refine ⟨⟨trivial, trivial, h.explained⟩, ?_, ?_, fun hauth => ?_⟩
  · show c.state = lastState (.frame ctl id :: .taken ctl :: c.rest.log)
    rw [lastState_cons rfl, lastState_cons rfl]
    exact h.current
  · show Logins (session (.frame ctl id :: .taken ctl :: c.rest.log)) true queue
    rw [hsession]
    exact htaken.frame id
  · obtain ⟨writer, old, hmem⟩ := h.authed hauth
    refine ⟨writer, old, ?_⟩
    show _ ∈ session (.frame ctl id :: .taken ctl :: c.rest.log)
    rw [hsession]
    exact List.mem_cons_of_mem _ (List.mem_cons_of_mem _ hmem)

theorem Authentic.dequeue {live : Bool} {c : Client Rest} (h : Authentic live c) {ctl : Ctl}
    {queue : List Ctl} (requests : Requests) :
    Authentic false ((c.dequeue ctl queue).withRequests requests) := by
  have htaken : Authentic live (c.emit (.taken ctl)) := h.emit rfl
  exact ⟨htaken.explained, htaken.current, htaken.logins.weaken _, htaken.authed⟩

theorem message_loginSend (token : CString.CArray 64) :
    (loginSend token).message.command = blynkCmdLogin := by
  unfold Send.message
  show Message.command (if _ then _ else _) = _
  split_ifs <;> rfl

theorem authentic_move {c : Client Rest} {pc pc' : Pc} (h : Move c pc pc')
    (hc : Authentic pc.live c) :
    Authentic pc'.live c ∧ (pc'.beforeLogin = true → Unsent c.rest.log) := by
  cases h with
  | leave => exact ⟨hc.weaken, fun hpc => (by cases hpc)⟩
  | _ => exact ⟨hc, fun hpc => (by cases hpc)⟩

theorem state_ne_stopped {s : Sys} (hs : s.InPhase) (hpc : s.pc ≠ .absent) :
    s.client.state ≠ .stopped :=
  fun hstate => hpc (pc_of_stopped hs hstate)

theorem authentic_turn {s : Sys} {e : Env} {c : Client Rest} {pc : Pc} (h : Turn s e c pc)
    (hphase : s.InPhase) (hcorr : s.Correlating) (hs : s.Authenticating) :
    Authentic pc.live c ∧ (pc.beforeLogin = true → Unsent c.rest.log) := by
  have hclient := hs.client
  have hstopped := state_ne_stopped hphase
  cases h with
  | ended => exact ⟨hclient, hs.unsent⟩
  | move hmove => exact authentic_move hmove hclient
  | unreachable hpc =>
    have hc : s.client.state ≠ .stopped := by
      rcases hpc with hpc | hpc <;> exact hstopped (by rw [hpc]; exact Pc.noConfusion)
    exact ⟨(hclient.setDisconnected hc _ _).weaken, fun hlogin => (by cases hlogin)⟩
  | fail hpc =>
    have hc : s.client.state ≠ .stopped := hstopped (by intro hat; rw [hat] at hpc; cases hpc)
    exact ⟨(hclient.setDisconnected hc _ _).weaken, fun hlogin => (by cases hlogin)⟩
  | connect hpc =>
    have hdisc : s.client.state = .disconnected := List.mem_singleton.mp (hphase.state_mem hpc)
    have hsession : session (.connected :: s.client.rest.log) = [] := session_connected _
    refine ⟨⟨⟨trivial, hclient.explained⟩, hclient.current, ?_, fun hauth => ?_⟩, fun _ ctl hmem => ?_⟩
    · show Logins (session (.connected :: s.client.rest.log)) false _
      rw [hsession]
      exact logins_nil _
    · rw [show s.client.state = .authenticated from hauth] at hdisc
      cases hdisc
    · rw [show session (s.client.emit .connected).rest.log = [] from hsession] at hmem
      cases hmem
  | setConnected hpc =>
    have hdisc : s.client.state = .disconnected := List.mem_singleton.mp (hphase.state_mem hpc)
    refine ⟨(hclient.setConnected hdisc).weaken, fun _ => ?_⟩
    obtain ⟨reports, heq⟩ := setState_eq s.client .connected
    rw [heq]
    exact (hs.unsent (by rw [hpc]; rfl)).cons rfl fun _ hctl => (by cases hctl)
  | reset hpc =>
    refine ⟨⟨hclient.explained, hclient.current, hclient.logins.reset, hclient.authed⟩, fun _ => ?_⟩
    exact hs.unsent (by rw [hpc]; rfl)
  | advancePing hpc =>
    have hunsent := hs.unsent (by rw [hpc]; rfl)
    rw [hpc] at hclient
    exact ⟨⟨hclient.explained, hclient.current, hclient.logins, hclient.authed⟩, fun _ => hunsent⟩
  | login hpc =>
    have hunsent := hs.unsent (by rw [hpc]; rfl)
    rw [hpc] at hclient
    have hsend : Authentic true
        (s.client.sendOrDisconnect (loginSend s.opt.token) e.ctlWrite e.errno).1 :=
      hclient.sendOrDisconnect (hstopped (by rw [hpc]; exact Pc.noConfusion))
        (Or.inr ⟨message_loginSend _, hunsent⟩) _ _
    split_ifs
    · exact ⟨hsend, fun hlogin => (by cases hlogin)⟩
    · exact ⟨hsend.weaken, fun hlogin => (by cases hlogin)⟩
  | @noId ctl queue requests hpc _ hqueue _ _ =>
    have hc : s.client.state ≠ .stopped := hstopped (by rw [hpc]; exact Pc.noConfusion)
    exact ⟨(hclient.dequeue requests).setDisconnected hc _ _, fun hlogin => (by cases hlogin)⟩
  | @takeNew ctl queue requests id hpc _ hqueue _ _ _ =>
    rw [hpc] at hclient
    exact ⟨hclient.serialize hqueue requests id, fun hlogin => (by cases hlogin)⟩
  | @takeAnswer ctl queue hpc _ hqueue _ =>
    rw [hpc] at hclient
    exact ⟨hclient.serialize hqueue s.client.rest.requests _, fun hlogin => (by cases hlogin)⟩
  | @expire ready now i requests a hpc hexpire =>
    have hcorr' := hcorr.client
    rw [hpc] at hclient hcorr'
    have hout := hcorr'.outstanding rfl
    obtain ⟨ha, hdue, -⟩ := hout.sound.live_expire hexpire
    have hlive : a.id ≠ 0 := by
      intro hzero
      rw [Awaiting.due, hzero] at hdue
      cases hdue
    have hfreed : Authentic true (s.client.withRequests requests) :=
      ⟨hclient.explained, hclient.current, hclient.logins, hclient.authed⟩
    refine ⟨hfreed.invoke (hstopped (by rw [hpc]; exact Pc.noConfusion)) (hout.slots a ha hlive) ?_,
      fun hlogin => (by cases hlogin)⟩
    -- a timeout is not a success
    intro hsuccess
    cases hsuccess
  | ping hpc _ =>
    rw [hpc] at hclient
    have hadvance : Authentic true s.client.advancePing :=
      ⟨hclient.explained, hclient.current, hclient.logins, hclient.authed⟩
    have hsend : Authentic true
        (s.client.advancePing.sendOrDisconnect pingSend e.ctlWrite e.errno).1 :=
      hadvance.sendOrDisconnect (hstopped (by rw [hpc]; exact Pc.noConfusion)) (Or.inl rfl) _ _
    split_ifs
    · exact ⟨hsend, fun hlogin => (by cases hlogin)⟩
    · exact ⟨hsend.weaken, fun hlogin => (by cases hlogin)⟩
  | datagram hpc =>
    rw [hpc] at hclient
    unfold Client.readDatagram
    split_ifs
    · exact ⟨⟨hclient.explained, hclient.current, hclient.logins, hclient.authed⟩,
        fun hlogin => (by cases hlogin)⟩
    · exact ⟨hclient, fun hlogin => (by cases hlogin)⟩
  | @parse ready d ds hpc =>
    have hcorr' := hcorr.client
    rw [hpc] at hclient hcorr'
    have hdisc : s.client.state ≠ .disconnected := by
      have hmem := hphase.state_mem hpc
      intro hstate
      rw [hstate] at hmem
      simp [Pc.states] at hmem
    have hparse := hclient.parse hcorr' (hstopped (by rw [hpc]; exact Pc.noConfusion)) hdisc e d
    split_ifs
    · exact ⟨hparse.weaken, fun hlogin => (by cases hlogin)⟩
    · exact ⟨hparse, fun hlogin => (by cases hlogin)⟩
  | write hpc _ _ _ =>
    rw [hpc] at hclient
    have hsent : Authentic true (s.client.emit (.sent ((writtenBytes e).take e.accepted))) :=
      hclient.emit rfl
    exact ⟨⟨hsent.explained, hsent.current, hsent.logins, hsent.authed⟩,
      fun hlogin => (by cases hlogin)⟩

/-! ## All runs -/

theorem OfApplication.not_login {ctl : Ctl} (h : OfApplication ctl.handler) : ctl.isLogin = false := by
  unfold Ctl.isLogin
  rcases h with h | ⟨f, h⟩
  · rw [h]
    rfl
  · rw [h]
    rfl

theorem authenticating_step {s s' : Sys} {i : Input} (h : Step s i s') (hphase : s.InPhase)
    (hcorr : s.Correlating) (hs : s.Authenticating) : s'.Authenticating := by
  have hclient := hs.client
  cases h with
  | tick => exact ⟨⟨hclient.explained, hclient.current, hclient.logins, hclient.authed⟩, hs.unsent⟩
  | @report e ev evs _ =>
    have hreport : Authentic s.pc.live (s.client.emit (.report ev)) := hclient.emit rfl
    refine ⟨⟨hreport.explained, hreport.current, hreport.logins, hreport.authed⟩, fun hpc => ?_⟩
    exact (hs.unsent hpc).cons rfl fun _ hctl => (by cases hctl)
  | turn _ hturn _ =>
    obtain ⟨hturned, hunsent⟩ := authentic_turn hturn hphase hcorr hs
    exact ⟨hturned, hunsent⟩
  | configure =>
    exact ⟨⟨hclient.explained, hclient.current, hclient.logins, hclient.authed⟩, hs.unsent⟩
  | start _ hstate _ =>
    have hwrite : Authentic s.pc.live (s.client.writeState .blynkStart .disconnected) := by
      refine hclient.write rfl rfl rfl ⟨hclient.current, ?_⟩ (fun hnew => by cases hnew)
      rw [hstate]
      trivial
    exact ⟨hwrite.weaken, fun hpc => (by cases hpc)⟩
  | @enqueue t answer ctl hsender _ =>
    have hpassed := hcorr.senders t
    rw [hsender] at hpassed
    have hlogin := hpassed.1.not_login
    refine ⟨hclient.enqueue (Or.inl hlogin), fun hpc => ?_⟩
    refine (hs.unsent hpc).cons rfl fun ctl' hctl => ?_
    cases hctl
    exact hlogin
  | print =>
    exact ⟨⟨hclient.explained, hclient.current, hclient.logins, hclient.authed⟩, hs.unsent⟩
  | @wake t answer req _ _ =>
    obtain ⟨unread, heq⟩ := wake_eq s.client answer
    rw [heq]
    exact ⟨⟨hclient.explained, hclient.current, hclient.logins, hclient.authed⟩, hs.unsent⟩
  | finish =>
    exact ⟨⟨hclient.explained, hclient.current, hclient.logins, hclient.authed⟩, hs.unsent⟩
  | @reported t answer ev _ =>
    have hreport : Authentic s.pc.live (s.client.emit (.report ev)) := hclient.emit rfl
    refine ⟨hreport, fun hpc => ?_⟩
    exact (hs.unsent hpc).cons rfl fun _ hctl => (by cases hctl)
  | _ => exact ⟨hclient, hs.unsent⟩

theorem authenticating_init (pair : Int × Int) : (Sys.init pair).Authenticating :=
  ⟨⟨trivial, rfl, logins_nil _, fun hauth => (by cases hauth)⟩, fun hpc => (by cases hpc)⟩

/-- All that these modules know about a state that a run reaches. -/
structure Sys.Consistent (s : Sys) : Prop where
  phase : s.InPhase
  correlating : s.Correlating
  authenticating : s.Authenticating

theorem consistent_step {s s' : Sys} {i : Input} (h : Step s i s') (hs : s.Consistent) :
    s'.Consistent where
  phase := phase_step h hs.phase
  correlating := correlating_step h hs.correlating
  authenticating := authenticating_step h hs.phase hs.correlating hs.authenticating

theorem consistent_init (pair : Int × Int) : (Sys.init pair).Consistent :=
  ⟨phase_init pair, correlating_init pair, authenticating_init pair⟩

/-- **The connection state machine.** In every run, with any results of the system calls, any bytes
from the server and any calls of the application, every write of the state follows the rule, the
state is the one written last, and `blynk_loop` has returned only in a client that is
disconnected. -/
theorem states_run (pair : Int × Int) (is : List Input) :
    Explained StateRule (run (silent Sys.step) (.init pair) is).1.client.rest.log
      ∧ (run (silent Sys.step) (.init pair) is).1.client.state
        = lastState (run (silent Sys.step) (.init pair) is).1.client.rest.log
      ∧ ((run (silent Sys.step) (.init pair) is).1.pc = .delay
          ∨ (run (silent Sys.step) (.init pair) is).1.pc = .terminated →
        (run (silent Sys.step) (.init pair) is).1.client.state = .disconnected) := by
  have hall : AllSteps (silent Sys.step) (fun _ _ => True) (.init pair) is :=
    .of_forall (fun _ _ => trivial) _ is
  obtain ⟨hphase, -, hauth⟩ := run_inv (I := Sys.Consistent)
    (fun s i hs _ => consistent_step (s.step_step i) hs) (consistent_init pair) hall
  refine ⟨hauth.client.explained, hauth.client.current, fun hpc => ?_⟩
  rcases hpc with hpc | hpc
  · exact List.mem_singleton.mp (hphase.state_mem hpc)
  · exact List.mem_singleton.mp (hphase.state_mem hpc)

end ControlFan.Blynk
