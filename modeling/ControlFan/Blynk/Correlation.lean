import ControlFan.Blynk.Phase

/-!
# Blynk — requests and their responses

A request with a response handler is queued, gets an id and a slot when it is sent, and its handler
is called by a response with that id or by the end of its time. All of this goes through the 32
slots of `p->awaiting`, which are wiped by a new connection and overwritten by a used-up counter.

* **`Correlated`** — what has to be in the log before a handler is called;
* **`Tracked`** — the log, the queue and the numbers of the requests fit together;
* **`Outstanding`** — every slot in use is for a request of the current connection that was not
  answered;
* **`correlating_step`**, **`correlated_run`** — in every run, every call of a handler is
  correlated.
-/

namespace ControlFan.Blynk

open Machine Slots

/-! ## The contract -/

/-- The request whose handler is called. -/
def Event.invokes : Event → Option Nat
  | .invoked req _ _ _ _ => some req
  | _ => none

/-- What gives a handler its status: a response with the id of the request that has just been
received, or the deadline that has passed. -/
def Cause.Explains (es : List Event) (ctl : Ctl) (id status : UInt16) : Cause → Prop
  | .message =>
    ∃ m es', es = .received m :: es' ∧ m.command = blynkCmdResponse ∧ m.id = id ∧ m.len = status
  | .timer now => status = blynkStatusResponseTimeout ∧ ctl.deadline ≤ now

/-- What the earlier events have to say about an event. Requests are numbered, and sent once; a
handler is called once for its request, which was queued with this handler and sent on the
current connection under the id that `get_id` gave it. -/
def Correlated (es : List Event) : Event → Prop
  | .queued ctl => ∀ ctl', .queued ctl' ∈ es → ctl'.req ≠ ctl.req
  | .frame ctl _ => ∀ ctl' id', .frame ctl' id' ∈ es → ctl'.req ≠ ctl.req
  | .invoked req handler status data cause =>
    (∀ e ∈ es, e.invokes ≠ some req) ∧ (∀ addr, handler ≠ .wild addr)
      ∧ ∃ ctl id, ctl.req = req ∧ ctl.handler = some handler ∧ ctl.data = data
        ∧ .queued ctl ∈ es ∧ ctl.message.id = 0 ∧ .frame ctl id ∈ session es
        ∧ cause.Explains es ctl id status
  | _ => True

/-! ## The log and the queue -/

/-- The largest timeout in ticks. -/
def maxTimeout : Nat := 2 ^ 32 / portTickRateMs

theorem Options.timeoutTicks_le (opt : Options) : opt.timeoutTicks ≤ maxTimeout :=
  Nat.div_le_div_right opt.timeout.toNat_lt.le

/-- A request that the client can have got from its callers: no handler but a real one, and no
deadline that is far away. -/
structure Ctl.Passed (now : Nat) (ctl : Ctl) : Prop where
  handler : ∀ addr, ctl.handler ≠ some (.wild addr)
  deadline : ctl.deadline ≤ now + maxTimeout

structure Tracked (log : List Event) (queue : List Ctl) (nreq now : Nat) : Prop where
  explained : Explained Correlated log
  numbered : ∀ ctl, .queued ctl ∈ log → ctl.req < nreq ∧ ctl.Passed now
  waiting : ∀ ctl ∈ queue, .queued ctl ∈ log ∧ ∀ ctl' id, .frame ctl' id ∈ log → ctl'.req ≠ ctl.req
  distinct : (queue.map Ctl.req).Nodup
  framed : ∀ ctl id, .frame ctl id ∈ log → .queued ctl ∈ log
  once : ∀ ctl id ctl' id', .frame ctl id ∈ log → .frame ctl' id' ∈ log → ctl.req = ctl'.req → id = id'
  answered : ∀ e ∈ log, ∀ req, e.invokes = some req → ∃ ctl id, .frame ctl id ∈ log ∧ ctl.req = req

/-- Events that say nothing about requests. -/
def Event.plain : Event → Bool
  | .queued _ => false
  | .frame _ _ => false
  | .invoked _ _ _ _ _ => false
  | _ => true

section Tracked

variable {log : List Event} {queue : List Ctl} {nreq now : Nat}

/-- An event that is neither a request in the queue nor a frame. -/
theorem Tracked.cons (h : Tracked log queue nreq now) {e : Event} (hcorr : Correlated log e)
    (hqueued : ∀ ctl, e ≠ .queued ctl) (hframe : ∀ ctl id, e ≠ .frame ctl id)
    (hinvokes : ∀ req, e.invokes = some req → ∃ ctl id, .frame ctl id ∈ log ∧ ctl.req = req) :
    Tracked (e :: log) queue nreq now := by
  have hqueued' : ∀ ctl, .queued ctl ∈ e :: log → .queued ctl ∈ log :=
    fun ctl hctl => List.mem_of_ne_of_mem (hqueued ctl).symm hctl
  have hframe' : ∀ ctl id, .frame ctl id ∈ e :: log → .frame ctl id ∈ log :=
    fun ctl id hctl => List.mem_of_ne_of_mem (hframe ctl id).symm hctl
  refine ⟨⟨hcorr, h.explained⟩, fun ctl hctl => h.numbered ctl (hqueued' ctl hctl),
    fun ctl hctl => ?_, h.distinct, fun ctl id hctl => ?_, fun ctl id ctl' id' hctl hctl' => ?_,
    fun e' he' req hreq => ?_⟩
  · obtain ⟨hlog, hnew⟩ := h.waiting ctl hctl
    exact ⟨List.mem_cons_of_mem _ hlog, fun ctl' id hctl' => hnew ctl' id (hframe' ctl' id hctl')⟩
  · exact List.mem_cons_of_mem _ (h.framed ctl id (hframe' ctl id hctl))
  · exact h.once ctl id ctl' id' (hframe' _ _ hctl) (hframe' _ _ hctl')
  · have hold : ∃ ctl id, .frame ctl id ∈ log ∧ ctl.req = req := by
      rcases List.mem_cons.mp he' with rfl | hmem
      · exact hinvokes req hreq
      · exact h.answered e' hmem req hreq
    obtain ⟨ctl, id, hctl, hreq⟩ := hold
    exact ⟨ctl, id, List.mem_cons_of_mem _ hctl, hreq⟩

theorem Tracked.plain (h : Tracked log queue nreq now) {e : Event} (he : e.plain = true) :
    Tracked (e :: log) queue nreq now := by
  have hcorr : Correlated log e := by
    cases e with
    | queued | frame | invoked => cases he
    | _ => trivial
  refine h.cons hcorr (fun ctl heq => ?_) (fun ctl id heq => ?_) fun req hreq => ?_
  · rw [heq] at he
    cases he
  · rw [heq] at he
    cases he
  · cases e with
    | invoked => cases he
    | _ => cases hreq

theorem Tracked.later (h : Tracked log queue nreq now) {now' : Nat} (hle : now ≤ now') :
    Tracked log queue nreq now' := by
  refine ⟨h.explained, fun ctl hctl => ?_, h.waiting, h.distinct, h.framed, h.once, h.answered⟩
  obtain ⟨hlt, hpassed⟩ := h.numbered ctl hctl
  exact ⟨hlt, hpassed.handler, hpassed.deadline.trans (Nat.add_le_add_right hle _)⟩

theorem Tracked.clear (h : Tracked log queue nreq now) : Tracked log [] nreq now :=
  ⟨h.explained, h.numbered, fun _ hctl => (by cases hctl), List.nodup_nil, h.framed, h.once, h.answered⟩

/-- A new request goes to the end of the queue. -/
theorem Tracked.enqueue (h : Tracked log queue nreq now) {ctl : Ctl} (hreq : ctl.req = nreq)
    (hpassed : ctl.Passed now) : Tracked (.queued ctl :: log) (queue ++ [ctl]) (nreq + 1) now := by
  have hold : ∀ ctl', .queued ctl' ∈ log → ctl'.req ≠ nreq :=
    fun ctl' hctl' => Nat.ne_of_lt (h.numbered ctl' hctl').1
  have hframe : ∀ ctl' id, .frame ctl' id ∈ Event.queued ctl :: log → .frame ctl' id ∈ log :=
    fun ctl' id hctl' => List.mem_of_ne_of_mem (by simp) hctl'
  refine ⟨⟨fun ctl' hctl' => hreq ▸ hold ctl' hctl', h.explained⟩, fun ctl' hctl' => ?_,
    fun ctl' hctl' => ?_, ?_, fun ctl' id hctl' => ?_, fun c id c' id' hc hc' => ?_,
    fun e he req hinvokes => ?_⟩
  · rcases List.mem_cons.mp hctl' with heq | hmem
    · cases heq
      exact ⟨by omega, hpassed⟩
    · obtain ⟨hlt, hpassed'⟩ := h.numbered ctl' hmem
      exact ⟨by omega, hpassed'⟩
  · rcases List.mem_append.mp hctl' with hmem | hnew
    · obtain ⟨hlog, hfresh⟩ := h.waiting ctl' hmem
      exact ⟨List.mem_cons_of_mem _ hlog, fun c id hc => hfresh c id (hframe c id hc)⟩
    · rw [List.mem_singleton.mp hnew]
      refine ⟨List.mem_cons_self, fun c id hc => ?_⟩
      rw [hreq]
      exact hold c (h.framed c id (hframe c id hc))
  · rw [List.map_append, List.nodup_append']
    refine ⟨h.distinct, List.nodup_singleton _, ?_⟩
    rw [List.map_singleton, List.disjoint_singleton]
    intro hmem
    obtain ⟨ctl', hctl', heq⟩ := List.mem_map.mp hmem
    exact hold ctl' (h.waiting ctl' hctl').1 (heq.trans hreq)
  · exact List.mem_cons_of_mem _ (h.framed ctl' id (hframe ctl' id hctl'))
  · exact h.once c id c' id' (hframe _ _ hc) (hframe _ _ hc')
  · rcases List.mem_cons.mp he with rfl | hmem
    · cases hinvokes
    · obtain ⟨c, id, hc, hreq'⟩ := h.answered e hmem req hinvokes
      exact ⟨c, id, List.mem_cons_of_mem _ hc, hreq'⟩

theorem Tracked.dequeue {ctl : Ctl} (h : Tracked log (ctl :: queue) nreq now) :
    Tracked log queue nreq now :=
  ⟨h.explained, h.numbered, fun ctl' hctl' => h.waiting ctl' (List.mem_cons_of_mem _ hctl'),
    (List.nodup_cons.mp h.distinct).2, h.framed, h.once, h.answered⟩

/-- The first message of the queue is sent. -/
theorem Tracked.frame {ctl : Ctl} (h : Tracked log (ctl :: queue) nreq now) (id : UInt16) :
    Tracked (.frame ctl id :: log) queue nreq now := by
  obtain ⟨hqueued, hfresh⟩ := h.waiting ctl List.mem_cons_self
  obtain ⟨hdistinct, hnodup⟩ := List.nodup_cons.mp h.distinct
  have hcons : ∀ {e}, e ∈ log → e ∈ Event.frame ctl id :: log := List.mem_cons_of_mem _
  refine ⟨⟨hfresh, h.explained⟩, fun ctl' hctl' => ?_, fun ctl' hctl' => ?_, hnodup,
    fun ctl' id' hctl' => ?_, fun c id₁ c' id₂ hc hc' heq => ?_, fun e he req hinvokes => ?_⟩
  · exact h.numbered ctl' (List.mem_of_ne_of_mem (by simp) hctl')
  · obtain ⟨hlog, hnew⟩ := h.waiting ctl' (List.mem_cons_of_mem _ hctl')
    refine ⟨hcons hlog, fun c id' hc => ?_⟩
    rcases List.mem_cons.mp hc with heq | hmem
    · cases heq
      exact fun heq => hdistinct (List.mem_map.mpr ⟨ctl', hctl', heq.symm⟩)
    · exact hnew c id' hmem
  · rcases List.mem_cons.mp hctl' with heq | hmem
    · cases heq
      exact hcons hqueued
    · exact hcons (h.framed ctl' id' hmem)
  · rcases List.mem_cons.mp hc with hnew | hold <;> rcases List.mem_cons.mp hc' with hnew' | hold'
    · cases hnew
      cases hnew'
      rfl
    · cases hnew
      exact absurd heq.symm (hfresh c' id₂ hold')
    · cases hnew'
      exact absurd heq (hfresh c id₁ hold)
    · exact h.once c id₁ c' id₂ hold hold' heq
  · rcases List.mem_cons.mp he with rfl | hmem
    · cases hinvokes
    · obtain ⟨c, id', hc, hreq⟩ := h.answered e hmem req hinvokes
      exact ⟨c, id', hcons hc, hreq⟩

/-- A handler is called. -/
theorem Tracked.invoked (h : Tracked log queue nreq now) {req data : Nat} {handler : ResponseHandler}
    {status : UInt16} {cause : Cause}
    (hcorr : Correlated log (.invoked req handler status data cause)) :
    Tracked (.invoked req handler status data cause :: log) queue nreq now := by
  refine h.cons hcorr (fun _ => Event.noConfusion) (fun _ _ => Event.noConfusion) fun r hr => ?_
  obtain ⟨-, -, ctl, id, hreq, -, -, -, -, hframe, -⟩ := hcorr
  cases hr
  exact ⟨ctl, id, mem_of_mem_session hframe, hreq⟩

end Tracked

/-! ## The slots -/

/-- A slot in use: its request was sent on the current connection under the slot's id, and its
handler was not called. -/
structure Tracks (log : List Event) (a : Awaiting) : Prop where
  sent : ∃ ctl, .frame ctl a.id ∈ session log ∧ ctl.message.id = 0 ∧ ctl.req = a.req
    ∧ ctl.handler = a.handler ∧ ctl.data = a.data ∧ ctl.deadline = a.deadline
  unanswered : ∀ e ∈ log, e.invokes ≠ some a.req

structure Outstanding (log : List Event) (requests : Requests) : Prop where
  sound : requests.Sound
  slots : ∀ a ∈ requests.awaiting.slots, a.id ≠ 0 → Tracks log a

theorem Tracks.cons {log : List Event} {a : Awaiting} (h : Tracks log a) {e : Event}
    (hconn : e.isConnected = false) (hinvokes : e.invokes ≠ some a.req) : Tracks (e :: log) a := by
  obtain ⟨ctl, hframe, hctl⟩ := h.sent
  refine ⟨⟨ctl, ?_, hctl⟩, fun e' he' => ?_⟩
  · rw [session_cons hconn]
    exact List.mem_cons_of_mem _ hframe
  · rcases List.mem_cons.mp he' with rfl | hold
    · exact hinvokes
    · exact h.unanswered e' hold

section Outstanding

variable {log : List Event} {queue : List Ctl} {nreq now : Nat} {r r' : Requests}

theorem Outstanding.cons (h : Outstanding log r) {e : Event} (hconn : e.isConnected = false)
    (hinvokes : e.invokes = none) : Outstanding (e :: log) r := by
  refine ⟨h.sound, fun a ha hlive => (h.slots a ha hlive).cons hconn ?_⟩
  rw [hinvokes]
  exact (Option.some_ne_none _).symm

theorem outstanding_reset (log : List Event) : Outstanding log .reset := by
  refine ⟨Requests.sound_reset, fun a ha hlive => ?_⟩
  rw [List.eq_of_mem_replicate ha] at hlive
  exact absurd rfl hlive

/-- The requests of two slots are different. -/
theorem Tracked.req_ne (h : Tracked log queue nreq now) {a b : Awaiting} (ha : Tracks log a)
    (hb : Tracks log b) (hne : b.id ≠ a.id) : b.req ≠ a.req := by
  obtain ⟨ctl, hframe, -, hreq, -⟩ := ha.sent
  obtain ⟨ctl', hframe', -, hreq', -⟩ := hb.sent
  intro heq
  refine hne (h.once ctl' b.id ctl a.id (mem_of_mem_session hframe')
    (mem_of_mem_session hframe) ?_)
  rw [hreq, hreq', heq]

/-- Slots are set free. -/
theorem Outstanding.freed (h : Outstanding log r) (hsound : r'.Sound)
    (hfreed : ∀ b ∈ r'.awaiting.slots, b.id ≠ 0 → b ∈ r.awaiting.slots) : Outstanding log r' :=
  ⟨hsound, fun b hb hlive => h.slots b (hfreed b hb hlive) hlive⟩

/-- The handler of a slot that is set free is called. -/
theorem Outstanding.invoked (h : Outstanding log r) (htracked : Tracked log queue nreq now)
    {a : Awaiting} (ha : Tracks log a) (hsound : r'.Sound)
    (hfreed : ∀ b ∈ r'.awaiting.slots, b.id ≠ 0 → b ∈ r.awaiting.slots ∧ b.id ≠ a.id)
    (handler : ResponseHandler) (status : UInt16) (cause : Cause) :
    Outstanding (.invoked a.req handler status a.data cause :: log) r' := by
  refine ⟨hsound, fun b hb hlive => ?_⟩
  obtain ⟨hslot, hne⟩ := hfreed b hb hlive
  have hbtracks := h.slots b hslot hlive
  refine hbtracks.cons rfl fun heq => ?_
  exact htracked.req_ne ha hbtracks hne (Option.some_inj.mp heq).symm

/-- A request is sent: it may get a slot. -/
theorem Outstanding.frame (h : Outstanding log r) {ctl : Ctl}
    (htracked : Tracked log (ctl :: queue) nreq now) (hzero : ctl.message.id = 0) {id : UInt16}
    (hid : getId r ctl.deadline ctl.handler ctl.data ctl.req = (r', id)) (hne : id ≠ 0) :
    Outstanding (.frame ctl id :: log) r' := by
  have hcount : r.id ≠ 0xffff := by
    intro hwrap
    rw [getId_wrap hwrap] at hid
    exact hne (Prod.mk.inj hid).2.symm
  have hsound : r'.Sound := by
    have hnext : (getId r ctl.deadline ctl.handler ctl.data ctl.req).1.Sound :=
      h.sound.getId hcount
    rw [hid] at hnext
    exact hnext
  have hold : ∀ a ∈ r.awaiting.slots, a.id ≠ 0 → Tracks (.frame ctl id :: log) a := by
    intro a ha hlive
    exact (h.slots a ha hlive).cons rfl (by simp [Event.invokes])
  refine ⟨hsound, fun a ha hlive => ?_⟩
  rcases getId_cases ctl.deadline ctl.handler ctl.data ctl.req hcount with
    ⟨-, heq⟩ | ⟨hd, -, -, heq⟩ | ⟨hd, pre, b, post, awaiting, hhandler, hslots, -, hnew, heq⟩
  · rw [hid] at heq
    cases heq
    exact hold a ha hlive
  · rw [hid] at heq
    exact absurd (Prod.mk.inj heq).2 hne
  · rw [hid] at heq
    cases heq
    rw [show awaiting.slots = _ from hnew] at ha
    rcases List.mem_append.mp ha with hpre | hpost
    · exact hold a (by rw [hslots]; exact List.mem_append_left _ hpre) hlive
    · rcases List.mem_cons.mp hpost with rfl | hpost
      · -- the new slot
        refine ⟨⟨ctl, ?_, hzero, rfl, hhandler, rfl, rfl⟩, fun e he hinvokes => ?_⟩
        · rw [session_cons rfl]
          exact List.mem_cons_self
        · rcases List.mem_cons.mp he with rfl | hmem
          · cases hinvokes
          · obtain ⟨ctl', id', hframe, hreq⟩ := htracked.answered e hmem _ hinvokes
            exact (htracked.waiting ctl List.mem_cons_self).2 ctl' id' hframe hreq
      · refine hold a ?_ hlive
        rw [hslots]
        exact List.mem_append_right _ (List.mem_cons_of_mem _ hpost)

end Outstanding

/-! ## The client -/

/-- The client, with its table in use or not. -/
structure Correlates (live : Bool) (c : Client Rest) : Prop where
  tracked : Tracked c.rest.log c.rest.queue c.rest.nreq c.rest.now
  outstanding : live = true → Outstanding c.rest.log c.rest.requests

section Client

variable {live : Bool} {c : Client Rest}

theorem Correlates.weaken (h : Correlates live c) : Correlates false c :=
  ⟨h.tracked, fun hlive => (by cases hlive)⟩

theorem Correlates.setState (h : Correlates live c) (state : BlynkState) :
    Correlates live (setState c state) := by
  obtain ⟨reports, heq⟩ := setState_eq c state
  rw [heq]
  exact ⟨h.tracked.plain rfl, fun hlive => (h.outstanding hlive).cons rfl rfl⟩

theorem Correlates.setDisconnected (h : Correlates live c) (reason : BlynkErr) (code : Int) :
    Correlates live (setDisconnected c reason code) := by
  obtain ⟨reports, heq⟩ := setDisconnected_eq c reason code
  rw [heq]
  exact ⟨h.tracked.plain rfl, fun hlive => (h.outstanding hlive).cons rfl rfl⟩

theorem Correlates.enqueue (h : Correlates live c) {ctl : Ctl} (hpassed : ctl.Passed c.rest.now) :
    Correlates live (c.enqueue ctl) := by
  refine ⟨h.tracked.enqueue rfl ⟨hpassed.handler, hpassed.deadline⟩, fun hlive => ?_⟩
  exact (h.outstanding hlive).cons rfl rfl

theorem Client.passed_ctl (c : Client Rest) {send : Send}
    (hsend : ∀ addr, send.handler ≠ some (.wild addr)) : (c.ctl send).Passed c.rest.now := by
  refine ⟨hsend, ?_⟩
  show (if send.handler.isSome then c.rest.opt.timeoutTicks + c.rest.now else 0) ≤ _
  have htimeout := c.rest.opt.timeoutTicks_le
  split_ifs <;> omega

theorem Correlates.sendOrDisconnect (h : Correlates live c) {send : Send}
    (hsend : ∀ addr, send.handler ≠ some (.wild addr)) (answer : CtlWrite) (errno : Int) :
    Correlates live (c.sendOrDisconnect send answer errno).1 := by
  have hqueued := h.enqueue (c.passed_ctl hsend)
  rcases sendOrDisconnect_cases c send answer errno with ⟨-, heq⟩ | ⟨-, -, heq⟩ | ⟨-, -, heq⟩
  · rw [heq]
    exact h.setDisconnected _ _
  · rw [heq]
    have hprinted : Correlates live ((c.enqueue (c.ctl send)).printfN privCtr) :=
      ⟨hqueued.tracked, hqueued.outstanding⟩
    exact hprinted.setDisconnected _ _
  · rw [heq]
    unfold Client.sent Client.wake
    split_ifs
    · exact ⟨hqueued.tracked, hqueued.outstanding⟩
    · exact ⟨hqueued.tracked, hqueued.outstanding⟩

/-- A call of the handler of `a`, whose slot has been set free in the client's table. -/
theorem correlates_invoke {r : Requests} {a : Awaiting} {status : UInt16} {cause : Cause}
    (htracked : Tracked c.rest.log c.rest.queue c.rest.nreq c.rest.now)
    (hout : Outstanding c.rest.log r) (ha : a ∈ r.awaiting.slots) (hlive : a.id ≠ 0)
    (hsound : c.rest.requests.Sound)
    (hfreed : ∀ b ∈ c.rest.requests.awaiting.slots, b.id ≠ 0 →
      b ∈ r.awaiting.slots ∧ b.id ≠ a.id)
    (hcause : ∀ ctl : Ctl, ctl.deadline = a.deadline → cause.Explains c.rest.log ctl a.id status) :
    Correlates true (c.invoke a status cause) := by
  have hkeep : Outstanding c.rest.log c.rest.requests :=
    hout.freed hsound fun b hb hb0 => (hfreed b hb hb0).1
  have htracks := hout.slots a ha hlive
  rcases invoke_cases c a status cause with ⟨-, heq⟩ | ⟨handler, hhandler, hcall⟩
  · rw [heq]
    exact ⟨htracked, fun _ => hkeep⟩
  · obtain ⟨ctl, hframe, hzero, hreq, hctl, hdata, hdeadline⟩ := htracks.sent
    have hqueued := htracked.framed ctl a.id (mem_of_mem_session hframe)
    have hcorr : Correlated c.rest.log (.invoked a.req handler status a.data cause) := by
      refine ⟨htracks.unanswered, fun addr hwild => ?_, ctl, a.id, hreq, hctl.trans hhandler, hdata,
        hqueued, hzero, hframe, hcause ctl hdeadline⟩
      refine (htracked.numbered ctl hqueued).2.handler addr ?_
      rw [hctl, hhandler, hwild]
    have hcalled : Correlates true (c.emit (.invoked a.req handler status a.data cause)) :=
      ⟨htracked.invoked hcorr, fun _ => hout.invoked htracked htracks hsound hfreed _ _ _⟩
    rcases hcall with heq | ⟨reason, code, heq⟩ | ⟨-, -, heq⟩
    · rw [heq]
      exact hcalled
    · rw [heq]
      exact hcalled.setDisconnected reason code
    · rw [heq]
      exact hcalled.setState _

theorem Correlates.handleMessage (h : Correlates true c) (e : Env) :
    Correlates true (handleMessage e c) := by
  have hout := h.outstanding rfl
  have hreceived : Tracked (.received c.message :: c.rest.log) c.rest.queue c.rest.nreq c.rest.now :=
    h.tracked.plain rfl
  have hslots : Outstanding (.received c.message :: c.rest.log) c.rest.requests := hout.cons rfl rfl
  rcases handleMessage_cases e (c := c) with
    ⟨heq, hcmd⟩ | ⟨m, heq | ⟨handler, id, name, args, data, heq⟩ | ⟨id, status, heq⟩⟩
  · rw [heq]
    have hsound : (c.rest.requests.answer c.message.id).1.Sound := hout.sound.answer _
    rcases hout.sound.answer_cases c.message.id with hnone | ⟨a, ha, hlive, hid, hone⟩
    · rw [hnone]
      exact ⟨hreceived, fun _ => hslots.freed hsound fun b hb hb0 => (Requests.live_answer hb hb0).1⟩
    · rw [hone]
      refine correlates_invoke (c := c.answer) hreceived hslots ha hlive hsound ?_ ?_
      · rw [hid]
        exact fun b hb hb0 => Requests.live_answer hb hb0
      · intro ctl _
        exact ⟨c.message, c.rest.log, rfl, hcmd, hid.symm, rfl⟩
  · rw [heq]
    exact ⟨hreceived, fun _ => hslots⟩
  · rw [heq]
    exact ⟨hreceived.plain rfl, fun _ => hslots.cons rfl rfl⟩
  · rw [heq]
    have hreceive : Correlates true (c.receive m) := ⟨hreceived, fun _ => hslots⟩
    exact hreceive.sendOrDisconnect (fun _ => (Option.some_ne_none _).symm) _ _

theorem Correlates.parse (h : Correlates true c) (e : Env) (d : UInt8) :
    Correlates true (parse (Blynk.handleMessage e) c d).1 := by
  obtain ⟨c', hparse | hparse, -, hrest⟩ := parse_cases c d
  · rw [hparse]
    exact ⟨hrest ▸ h.tracked, hrest ▸ h.outstanding⟩
  · rw [hparse]
    have hc' : Correlates true c' := ⟨hrest ▸ h.tracked, hrest ▸ h.outstanding⟩
    exact ⟨(hc'.handleMessage e).tracked, (hc'.handleMessage e).outstanding⟩

end Client

/-! ## The system -/

/-- The places where the table is in use: from the reset to the end of the connection. -/
def Pc.live : Pc → Bool
  | .advancePing => true
  | .login => true
  | .poll => true
  | .select _ => true
  | .timers _ _ _ => true
  | .ping _ _ => true
  | .check _ => true
  | .readCtl _ => true
  | .read _ => true
  | .parse _ _ => true
  | .write _ => true
  | _ => false

/-- What a thread in a send can have. -/
def Sender.Passed (now : Nat) : Sender → Prop
  | .checked send => OfApplication send.handler
  | .ready ctl => OfApplication ctl.handler ∧ ctl.deadline ≤ now + maxTimeout
  | _ => True

/-- Seen from the time that `handle_timers` goes by, no deadline is far away. -/
def Pc.Near (r : Requests) : Pc → Prop
  | .timers _ now _ => ∀ a ∈ r.awaiting.slots, a.id ≠ 0 → a.deadline ≤ now + maxTimeout
  | _ => True

structure Sys.Correlating (s : Sys) : Prop where
  client : Correlates s.pc.live s.client
  near : s.pc.Near s.client.rest.requests
  senders : ∀ t, (s.senders t).Passed s.client.rest.now

theorem OfApplication.ne_wild {handler : Option ResponseHandler} (h : OfApplication handler)
    (addr : Nat) : handler ≠ some (.wild addr) := by
  rcases h with h | ⟨f, h⟩
  · rw [h]
    exact (Option.some_ne_none _).symm
  · rw [h]
    simp

/-- A timer that is due is due: the comparison of two tick counts modulo `2 ^ 32` is right, as
long as the deadline is not far away. -/
theorem deadline_le_of_due {a : Awaiting} {now : Nat} (hdue : a.due now = true)
    (hnear : a.deadline ≤ now + maxTimeout) : a.deadline ≤ now := by
  unfold Awaiting.due timerExpired at hdue
  simp only [Bool.and_eq_true, decide_eq_true_eq] at hdue
  have hmax : maxTimeout = 429496729 := rfl
  rcases Nat.lt_or_ge now a.deadline with hlt | hge
  · have hbmod : Int.bmod ((a.deadline : Int) - now) (2 ^ 32) = (a.deadline : Int) - now :=
      Int.bmod_eq_of_le (by omega) (by omega)
    rw [hbmod] at hdue
    omega
  · exact hge

theorem Correlates.near {c : Client Rest} (h : Correlates true c) :
    ∀ a ∈ c.rest.requests.awaiting.slots, a.id ≠ 0 → a.deadline ≤ c.rest.now + maxTimeout := by
  intro a ha hlive
  obtain ⟨ctl, hframe, -, -, -, -, hdeadline⟩ := ((h.outstanding rfl).slots a ha hlive).sent
  rw [← hdeadline]
  have hqueued := h.tracked.framed ctl a.id (mem_of_mem_session hframe)
  exact (h.tracked.numbered ctl hqueued).2.deadline

theorem correlates_move {c : Client Rest} {pc pc' : Pc} (h : Move c pc pc')
    (hc : Correlates pc.live c) (hnear : pc.Near c.rest.requests) :
    Correlates pc'.live c ∧ pc'.Near c.rest.requests := by
  cases h with
  | selected => exact ⟨hc, hc.near⟩
  | notDue => exact ⟨hc, hnear⟩
  | leave => exact ⟨hc.weaken, trivial⟩
  | _ => exact ⟨hc, trivial⟩

theorem requests_invoke (c : Client Rest) (a : Awaiting) (status : UInt16) (cause : Cause) :
    (c.invoke a status cause).rest.requests = c.rest.requests := by
  rcases invoke_cases c a status cause with
    ⟨-, heq⟩ | ⟨handler, -, heq | ⟨reason, code, heq⟩ | ⟨-, -, heq⟩⟩
  · rw [heq]
  · rw [heq]
    rfl
  · obtain ⟨reports, hset⟩ :=
      setDisconnected_eq (c.emit (.invoked a.req handler status a.data cause)) reason code
    rw [heq, hset]
    rfl
  · obtain ⟨reports, hset⟩ :=
      setState_eq (c.emit (.invoked a.req handler status a.data cause)) .authenticated
    rw [heq, hset]
    rfl

/-- The message at the head of the queue is taken. -/
theorem Correlates.taken {live : Bool} {c : Client Rest} (h : Correlates live c) {ctl : Ctl}
    {queue : List Ctl} (hqueue : c.rest.queue = ctl :: queue) :
    Tracked (.taken ctl :: c.rest.log) (ctl :: queue) c.rest.nreq c.rest.now := by
  rw [← hqueue]
  exact h.tracked.plain rfl

theorem correlates_turn {s : Sys} {e : Env} {c : Client Rest} {pc : Pc} (h : Turn s e c pc)
    (hs : s.Correlating) : Correlates pc.live c ∧ pc.Near c.rest.requests := by
  have hclient := hs.client
  have hnear := hs.near
  cases h with
  | ended => exact ⟨hclient, hnear⟩
  | move hmove => exact correlates_move hmove hclient hnear
  | unreachable _ reason code => exact ⟨(hclient.setDisconnected reason code).weaken, trivial⟩
  | fail _ reason code => exact ⟨(hclient.setDisconnected reason code).weaken, trivial⟩
  | connect => exact ⟨⟨hclient.tracked.plain rfl, fun hlive => (by cases hlive)⟩, trivial⟩
  | setConnected => exact ⟨(hclient.setState .connected).weaken, trivial⟩
  | reset => exact ⟨⟨hclient.tracked.clear, fun _ => outstanding_reset _⟩, trivial⟩
  | advancePing hpc =>
    rw [hpc] at hclient
    exact ⟨⟨hclient.tracked, hclient.outstanding⟩, trivial⟩
  | login hpc =>
    rw [hpc] at hclient
    have hsend : Correlates true
        (s.client.sendOrDisconnect (loginSend s.opt.token) e.ctlWrite e.errno).1 :=
      hclient.sendOrDisconnect (fun _ => by simp [loginSend]) _ _
    split_ifs
    · exact ⟨hsend, trivial⟩
    · exact ⟨hsend.weaken, trivial⟩
  | @noId ctl queue requests _ _ hqueue _ _ =>
    have hdequeue : Correlates false ((s.client.dequeue ctl queue).withRequests requests) :=
      ⟨(hclient.taken hqueue).dequeue, fun hlive => (by cases hlive)⟩
    exact ⟨hdequeue.setDisconnected _ _, trivial⟩
  | @takeNew ctl queue requests id hpc _ hqueue hzero hid hne =>
    rw [hpc] at hclient
    have htaken := hclient.taken hqueue
    have hout : Outstanding (.taken ctl :: s.client.rest.log) s.client.rest.requests :=
      (hclient.outstanding rfl).cons rfl rfl
    exact ⟨⟨htaken.frame id, fun _ => hout.frame htaken hzero hid hne⟩, trivial⟩
  | @takeAnswer ctl queue hpc _ hqueue _ =>
    rw [hpc] at hclient
    have hout : Outstanding (.taken ctl :: s.client.rest.log) s.client.rest.requests :=
      (hclient.outstanding rfl).cons rfl rfl
    exact ⟨⟨(hclient.taken hqueue).frame _, fun _ => hout.cons rfl rfl⟩, trivial⟩
  | @expire ready now i requests a hpc hexpire =>
    rw [hpc] at hclient hnear
    have hout := hclient.outstanding rfl
    have hsound : requests.Sound := by
      have hnext := hout.sound.expire i now
      rw [hexpire] at hnext
      exact hnext
    obtain ⟨ha, hdue, hfreed⟩ := hout.sound.live_expire hexpire
    have hlive : a.id ≠ 0 := by
      intro hzero
      rw [Awaiting.due, hzero] at hdue
      cases hdue
    refine ⟨correlates_invoke hclient.tracked hout ha hlive hsound hfreed fun ctl hctl => ?_, ?_⟩
    · refine ⟨rfl, ?_⟩
      rw [hctl]
      exact deadline_le_of_due hdue (hnear a ha hlive)
    · rw [requests_invoke]
      exact fun b hb hb0 => hnear b (hfreed b hb hb0).1 hb0
  | ping hpc _ =>
    rw [hpc] at hclient
    have hadvance : Correlates true s.client.advancePing := ⟨hclient.tracked, hclient.outstanding⟩
    have hsend : Correlates true
        (s.client.advancePing.sendOrDisconnect pingSend e.ctlWrite e.errno).1 :=
      hadvance.sendOrDisconnect (fun _ => by simp [pingSend]) _ _
    split_ifs
    · exact ⟨hsend, trivial⟩
    · exact ⟨hsend.weaken, trivial⟩
  | datagram hpc =>
    rw [hpc] at hclient
    unfold Client.readDatagram
    split_ifs
    · exact ⟨⟨hclient.tracked, hclient.outstanding⟩, trivial⟩
    · exact ⟨hclient, trivial⟩
  | @parse ready d ds hpc =>
    rw [hpc] at hclient
    have hparse := hclient.parse e d
    split_ifs
    · exact ⟨hparse.weaken, trivial⟩
    · exact ⟨hparse, trivial⟩
  | write hpc _ _ _ =>
    rw [hpc] at hclient
    exact ⟨⟨hclient.tracked.plain rfl, fun _ => (hclient.outstanding rfl).cons rfl rfl⟩, trivial⟩

/-! ## All runs -/

theorem passed_update {senders : Nat → Sender} {now t : Nat} {p : Sender}
    (h : ∀ u, (senders u).Passed now) (hp : p.Passed now) (u : Nat) :
    (Function.update senders t p u).Passed now := by
  rcases eq_or_ne u t with rfl | hne
  · rw [Function.update_self]
    exact hp
  · rw [Function.update_of_ne hne]
    exact h u

theorem Sender.Passed.later {now now' : Nat} (hle : now ≤ now') {p : Sender} (h : p.Passed now) :
    p.Passed now' := by
  cases p with
  | ready ctl => exact ⟨h.1, h.2.trans (Nat.add_le_add_right hle _)⟩
  | _ => exact h

theorem correlating_init (pair : Int × Int) : (Sys.init pair).Correlating := by
  refine ⟨⟨⟨trivial, ?_, ?_, List.nodup_nil, ?_, ?_, ?_⟩, fun hlive => ?_⟩, trivial, fun _ => trivial⟩
  · intro ctl hctl
    cases hctl
  · intro ctl hctl
    cases hctl
  · intro ctl id hctl
    cases hctl
  · intro ctl id ctl' id' hctl
    cases hctl
  · intro e he
    cases he
  · cases hlive

theorem correlating_step {s s' : Sys} {i : Input} (h : Step s i s') (hs : s.Correlating) :
    s'.Correlating := by
  have hclient := hs.client
  cases h with
  | tick n =>
    have hle : s.client.rest.now ≤ s.client.rest.now + n := Nat.le_add_right _ _
    exact ⟨⟨hclient.tracked.later hle, hclient.outstanding⟩, hs.near, fun t => (hs.senders t).later hle⟩
  | report =>
    refine ⟨⟨hclient.tracked.plain rfl, fun hlive => ?_⟩, hs.near, hs.senders⟩
    exact (hclient.outstanding hlive).cons rfl rfl
  | @turn e c pc _ hturn opt =>
    obtain ⟨hturned, hnear⟩ := correlates_turn hturn hs
    refine ⟨hturned, hnear, fun t => ?_⟩
    have hnow : c.rest.now = s.client.rest.now :=
      congrArg (fun given => given.2.2) (given_turn hturn)
    show (s.senders t).Passed c.rest.now
    rw [hnow]
    exact hs.senders t
  | refuse => exact hs
  | wait => exact hs
  | accept _ hsend => exact ⟨hclient, hs.near, passed_update hs.senders hsend⟩
  | configure => exact ⟨⟨hclient.tracked, hclient.outstanding⟩, hs.near, hs.senders⟩
  | start _ _ hp =>
    refine ⟨⟨hclient.tracked.plain rfl, fun hlive => (by cases hlive)⟩, trivial,
      passed_update hs.senders ?_⟩
    rcases hp with rfl | ⟨ev, rfl⟩
    · trivial
    · trivial
  | @build t answer send hsender =>
    have hsend : OfApplication send.handler := by
      have hpassed := hs.senders t
      rw [hsender] at hpassed
      exact hpassed
    have hctl := s.client.passed_ctl hsend.ne_wild
    exact ⟨hclient, hs.near, passed_update hs.senders ⟨hsend, hctl.deadline⟩⟩
  | @enqueue t answer ctl hsender _ =>
    have hpassed := hs.senders t
    rw [hsender] at hpassed
    exact ⟨hclient.enqueue ⟨hpassed.1.ne_wild, hpassed.2⟩, hs.near,
      passed_update (p := .queued s.client.rest.nreq) hs.senders trivial⟩
  | giveUp => exact ⟨hclient, hs.near, passed_update hs.senders trivial⟩
  | print =>
    exact ⟨⟨hclient.tracked, hclient.outstanding⟩, hs.near,
      passed_update (p := .printed _) hs.senders trivial⟩
  | refused => exact ⟨hclient, hs.near, passed_update hs.senders trivial⟩
  | @wake t answer req _ _ =>
    obtain ⟨unread, heq⟩ := wake_eq s.client answer
    rw [heq]
    exact ⟨⟨hclient.tracked, hclient.outstanding⟩, hs.near,
      passed_update (p := .written) hs.senders trivial⟩
  | finish =>
    exact ⟨⟨hclient.tracked, hclient.outstanding⟩, hs.near,
      passed_update (p := .idle) hs.senders trivial⟩
  | reported =>
    refine ⟨⟨hclient.tracked.plain rfl, fun hlive => ?_⟩, hs.near,
      passed_update (p := .idle) hs.senders trivial⟩
    exact (hclient.outstanding hlive).cons rfl rfl

/-- **Requests and responses.** In every run, over any number of connections, with any bytes from
the server and any clock, every call of a response handler is correlated with its request. -/
theorem correlated_run (pair : Int × Int) (is : List Input) :
    Explained Correlated (run (silent Sys.step) (.init pair) is).1.client.rest.log := by
  have hrun : (run (silent Sys.step) (.init pair) is).1.Correlating :=
    run_inv (C := fun _ _ => True) (fun s i hs _ => correlating_step (s.step_step i) hs)
      (correlating_init pair) (.of_forall (fun _ _ => trivial) _ _)
  exact hrun.client.tracked.explained

end ControlFan.Blynk
