import Mathlib.Logic.Relation
import ControlFan.Mqtt.Session

/-!
# Mqtt — what a step does to the outbox

The outbox, the count of pending messages and the log are changed from a dozen places of the
client. Each of them makes one of a few acts, and every step of the client is a chain of acts:
what an act keeps, the client keeps.

* **`Act`** — everything that can happen to the outbox, with what the place that does it knows;
* **`acts_step`** — every step is a chain of acts.
-/

namespace ControlFan.Mqtt

open Relation

/-! ## Acts -/

/-- The part of a client that keeps the books. -/
structure Ledger where
  outbox : Outbox
  count : Int
  log : List Event

def Session.ledger (s : Session) : Ledger := ⟨s.outbox, s.pendingMsgCount, s.log⟩

/-- An event that says nothing about the outbox. -/
def Event.isPlain : Event → Bool
  | .opened | .closed | .wrote _ _ | .dispatched _ | .data _ => true
  | .received _ _ | .queued _ | .resent _ | .dropped _ _ => false

/-- The packet that acknowledges a message of the type. -/
def Acks (ack msgType : Nat) : Prop :=
  (ack = 9 ∧ msgType = mqttMsgTypeSubscribe) ∨ (ack = 11 ∧ msgType = mqttMsgTypeUnsubscribe)
    ∨ ((ack = 4 ∨ ack = 7) ∧ msgType = mqttMsgTypePublish)

instance (ack msgType : Nat) : Decidable (Acks ack msgType) := by unfold Acks; infer_instance

theorem Acks.unique {ack m n : Nat} (hm : Acks ack m) (hn : Acks ack n) : n = m := by
  unfold Acks at hm hn
  omega

/-- The client cannot build the PUBREL that a PUBREC asks for. -/
def Session.NoPubrel (s : Session) : Prop :=
  ∃ msgId drawn, (mqttMsgPubrel s.conn msgId drawn).message.data = []

/-- What a step starts from: the id that it draws for a message of its own, the outbox, the count
of pending messages, and whether a PUBREC cannot be answered. -/
structure Origin where
  drawn : Option UInt16
  outbox : Outbox
  count : Int
  deaf : Prop

/-- The id that an input draws for a message of its own. -/
def Input.drawn : Input → Option UInt16
  | .publish p _ | .enqueue p _ => some p.id.val
  | .subscribe _ _ id _ _ | .unsubscribe _ id _ _ => some id.val
  | _ => none

def Session.origin (s : Session) (i : Input) : Origin := ⟨i.drawn, s.outbox, s.pendingMsgCount, s.NoPubrel⟩

/-- What happens to the outbox in a step. -/
inductive Act (o : Origin) : Ledger → Ledger → Prop where
  | plain {l : Ledger} (e : Event) (he : e.isPlain = true) : Act o l { l with log := e :: l.log }
  -- a packet that acknowledges nothing
  | received {l : Ledger} (type : Nat) (id : UInt16) (hdrawn : o.drawn = none)
      (hack : ∀ msgType, Acks type msgType →
        l.count = 0 ∨ outboxDelete l.outbox id msgType = none)
      (hpubrec : type = 5 → o.deaf) :
      Act o l { l with log := .received type id :: l.log }
  | acked {l : Ledger} (ack msgType : Nat) (id : UInt16) (item : Item) (outbox : Outbox)
      (hdrawn : o.drawn = none) (hack : Acks ack msgType)
      (hdelete : outboxDelete l.outbox id msgType = some (item, outbox)) :
      Act o l ⟨outbox, wrap32 (l.count - 1), .dropped item .acked :: .received ack id :: l.log⟩
  | pubrec {l : Ledger} (id : UInt16) (hdrawn : o.drawn = none) :
      Act o l
        { l with
          outbox := outboxSetPending l.outbox id .acknowledged
          log := .received 5 id :: l.log }
  | confirmed {l : Ledger} (id : UInt16) (ack : Nat) (hack : Acks ack mqttMsgTypePublish)
      (hlog : .received ack id ∈ l.log) :
      Act o l { l with outbox := outboxSetPending l.outbox id .confirmed }
  | queued {l : Ledger} (item : Item) (hstart : l.outbox = o.outbox)
      (hrequest : o.drawn.isSome = true ∧ l.count = o.count)
      (hpending : item.pending = .queued) (htype : item.msgType < 16)
      (hid : o.drawn = some item.msgId ∨ item.msgId = 0)
      (hzero : item.msgType = mqttMsgTypePublish ∧ item.msgQos = 0 → item.msgId = 0) :
      Act o l ⟨outboxEnqueue l.outbox item, wrap32 (l.count + 1), .queued item :: l.log⟩
  -- the item could not be allocated
  | lost {l : Ledger} (hrequest : o.drawn.isSome = true ∧ l.count = o.count) :
      Act o l { l with count := wrap32 (l.count + 1) }
  | transmitted {l : Ledger} (id : UInt16)
      (hid : o.drawn = some id
        ∨ (∃ item ∈ l.outbox, item.msgId = id ∧ item.pending = .queued)
        ∨ ∃ item, .dropped item .sent ∈ l.log ∧ item.msgId = id) :
      Act o l { l with outbox := outboxSetPending l.outbox id .transmitted }
  | ticked {l : Ledger} (id : UInt16) (tick : Int) :
      Act o l { l with outbox := outboxSetTick l.outbox id tick }
  | duplicate {l : Ledger} (pending : Pending) :
      Act o l { l with outbox := outboxSetDup l.outbox pending }
  | resent {l : Ledger} (item : Item) (hmem : item ∈ l.outbox)
      (hpending : item.pending = .queued ∨ item.pending = .transmitted) :
      Act o l { l with log := .resent item :: l.log }
  | expired {l : Ledger} (now : Int) :
      Act o l
        ⟨(outboxDeleteExpired l.outbox now outboxExpiredTimeoutMs).2,
          max 0
            (wrap32 (l.count - (outboxDeleteExpired l.outbox now outboxExpiredTimeoutMs).1.length)),
          logDropped (outboxDeleteExpired l.outbox now outboxExpiredTimeoutMs).1 (.expired now) l.log⟩
  | sent {l : Ledger} (item : Item) (outbox : Outbox) (ret : Int) (hret : 0 < ret)
      (hpublish : item.msgType = mqttMsgTypePublish ∧ item.msgQos = 0)
      (hlog : l.log.head? = some (.wrote item.buffer ret))
      (hdelete : outboxDeleteItem l.outbox item.pending = some (item, outbox)) :
      Act o l { l with outbox := outbox, log := .dropped item .sent :: l.log }
  | cleaned {l : Ledger} :
      Act o l
        { l with
          outbox := (outboxCleanup l.outbox outboxMaxSize).2
          log := logDropped (outboxCleanup l.outbox outboxMaxSize).1 .confirmed l.log }

/-- A chain of acts. -/
abbrev Acts (o : Origin) : Ledger → Ledger → Prop := ReflTransGen (Act o)

variable {o : Origin}

theorem Acts.plain {l : Ledger} (es : List Event) (h : ∀ e ∈ es, e.isPlain = true) :
    Acts o l { l with log := es ++ l.log } := by
  induction es with
  | nil => exact ReflTransGen.refl
  | cons e es ih =>
    obtain ⟨hhead, htail⟩ := List.forall_mem_cons.mp h
    exact (ih htail).tail (Act.plain e hhead)

/-! ## The parts of the client -/

theorem acts_writeData (s : Session) (w : Write) : Acts o s.ledger (s.writeData w).1.ledger := by
  unfold Session.writeData
  split_ifs
  · exact ReflTransGen.single (Act.plain _ rfl)
  · exact ReflTransGen.single (Act.plain _ rfl)

theorem acts_abortConnection (s : Session) (now : Int) :
    Acts o s.ledger (s.abortConnection now).ledger :=
  Acts.plain [.dispatched .disconnected, .closed] (by decide)

theorem acts_deleteExpired (s : Session) (now : Int) :
    Acts o s.ledger (s.deleteExpired now).ledger :=
  ReflTransGen.single (Act.expired now)

theorem acts_cleanup (s : Session) : Acts o s.ledger s.cleanup.ledger :=
  ReflTransGen.single Act.cleaned

/-! ## Acknowledgements and retransmissions -/

theorem writeData_cases (s : Session) (w : Write) :
    (w.ret ≤ 0 ∧ s.writeData w = (s.wrote w.ret, false))
      ∨ (0 < w.ret ∧ s.writeData w = ({ s.wrote w.ret with keepaliveTick := w.now }, true)) := by
  rcases lt_or_ge 0 w.ret with hpos | hneg
  · exact Or.inr ⟨hpos, if_neg (Int.not_le.mpr hpos)⟩
  · exact Or.inl ⟨hneg, if_pos hneg⟩

theorem isValidMqttMsg_cases (s : Session) (msgType : Nat) (msgId : UInt16) :
    (s.isValidMqttMsg msgType msgId = (s, false)
        ∧ (s.pendingMsgCount = 0 ∨ outboxDelete s.outbox msgId msgType = none))
      ∨ ∃ item outbox, outboxDelete s.outbox msgId msgType = some (item, outbox)
        ∧ s.pendingMsgCount ≠ 0
        ∧ s.isValidMqttMsg msgType msgId
          = ({ s with
                outbox := outbox
                pendingMsgCount := wrap32 (s.pendingMsgCount - 1)
                log := .dropped item .acked :: s.log },
              true) := by
  unfold Session.isValidMqttMsg
  split_ifs with hcount
  · exact Or.inl ⟨rfl, Or.inl hcount⟩
  · cases hdelete : outboxDelete s.outbox msgId msgType with
    | none => exact Or.inl ⟨rfl, Or.inr rfl⟩
    | some taken => exact Or.inr ⟨taken.1, taken.2, rfl, hcount, rfl⟩

theorem acts_acknowledge (s : Session) {ack msgType : Nat} (msgId : UInt16) (e : EventId)
    (hdrawn : o.drawn = none) (hack : Acks ack msgType) (hack5 : ack ≠ 5)
    (he : e = .published → msgType = mqttMsgTypePublish) :
    Acts o s.ledger ((s.emit (.received ack msgId)).acknowledge msgType msgId e).ledger := by
  unfold Session.acknowledge
  rcases isValidMqttMsg_cases (s.emit (.received ack msgId)) msgType msgId with
    ⟨heq, hnone⟩ | ⟨item, outbox, hdelete, -, heq⟩
  · rw [heq]
    refine ReflTransGen.single (Act.received ack msgId hdrawn (fun n hn => ?_) fun h => absurd h hack5)
    rw [hack.unique hn]
    exact hnone
  · rw [heq]
    have hacked : Act o s.ledger
        ⟨outbox, wrap32 (s.pendingMsgCount - 1),
          .dropped item .acked :: .received ack msgId :: s.log⟩ :=
      Act.acked ack msgType msgId item outbox hdrawn hack hdelete
    show Acts o _ (Session.emit (if e = .published then _ else _) _).ledger
    split_ifs with hpublished
    · rw [he hpublished] at hack
      exact ((ReflTransGen.single hacked).tail (Act.confirmed msgId ack hack
        (List.mem_cons_of_mem _ List.mem_cons_self))).tail (Act.plain _ rfl)
    · exact (ReflTransGen.single hacked).tail (Act.plain _ rfl)

theorem mem_of_dequeue {outbox : Outbox} {pending : Pending} {item : Item}
    (h : outboxDequeue outbox pending = some item) : item ∈ outbox ∧ item.pending = pending := by
  have hp := List.find?_some h
  exact ⟨List.mem_of_find?_eq_some h, by simpa using hp⟩

theorem acts_decodeQueued {s : Session} {item : Item} (hmem : item ∈ s.outbox)
    (hpending : item.pending = .queued ∨ item.pending = .transmitted) :
    Acts o s.ledger (s.decodeQueued item).ledger := by
  have hresent : Acts o s.ledger { s.ledger with log := .resent item :: s.log } :=
    ReflTransGen.single (Act.resent item hmem hpending)
  unfold Session.decodeQueued
  split_ifs
  · exact hresent.tail (Act.duplicate item.pending)
  · exact hresent

/-- The item is still there under its id, with its mark. -/
theorem mem_decodeQueued {s : Session} {item : Item} (hmem : item ∈ s.outbox) :
    ∃ it ∈ (s.decodeQueued item).outbox, it.msgId = item.msgId ∧ it.pending = item.pending := by
  unfold Session.decodeQueued
  split_ifs
  · have hkeep : (s.outbox.map fun it => (it.msgId, it.pending))
        = (outboxSetDup s.outbox item.pending).map fun it => (it.msgId, it.pending) :=
      (Queue.map_updateFirst (f := fun it => { it with buffer := mqttSetDup it.buffer })
        (fun _ => rfl) s.outbox).symm
    have hpair := List.mem_map_of_mem (f := fun it : Item => (it.msgId, it.pending)) hmem
    rw [hkeep] at hpair
    obtain ⟨it, hit, heq⟩ := List.mem_map.mp hpair
    exact ⟨it, hit, congrArg Prod.fst heq, congrArg Prod.snd heq⟩
  · exact ⟨item, hmem, rfl, rfl⟩

/-- The item is still there, or it was of QoS 0 and has left. -/
def Session.Resent (s : Session) (item : Item) : Prop :=
  s.pendingMsgId = item.msgId
    ∧ ((∃ it ∈ s.outbox, it.msgId = item.msgId ∧ it.pending = item.pending)
      ∨ ∃ it, .dropped it .sent ∈ s.log ∧ it.msgId = item.msgId)

theorem acts_deleteSent {s : Session} {item : Item} {ret : Int} (hret : 0 < ret)
    (hid : s.pendingMsgId = item.msgId)
    (hmem : ∃ it ∈ s.outbox, it.msgId = item.msgId ∧ it.pending = item.pending)
    (hitem : item.setsDup = false → outboxDequeue s.outbox item.pending = some item
      ∧ s.log.head? = some (.wrote item.buffer ret)) :
    Acts o s.ledger (s.deleteSent item).ledger ∧ (s.deleteSent item).Resent item := by
  unfold Session.deleteSent
  split_ifs with hpublish
  · obtain ⟨hdequeue, hlog⟩ := hitem (by simp [Item.setsDup, hpublish.2])
    cases hdelete : outboxDeleteItem s.outbox item.pending with
    | none => exact ⟨ReflTransGen.refl, hid, Or.inl hmem⟩
    | some taken =>
      obtain ⟨gone, outbox⟩ := taken
      -- the item that is deleted is the one that was sent
      obtain rfl : item = gone :=
        Option.some.inj (hdequeue.symm.trans (Queue.find?_of_takeFirst hdelete))
      refine ⟨ReflTransGen.single ?_, hid, Or.inr ⟨item, List.mem_cons_self, rfl⟩⟩
      exact Act.sent item outbox ret hret hpublish hlog hdelete
  · exact ⟨ReflTransGen.refl, hid, Or.inl hmem⟩

theorem acts_mqttResendQueued {s : Session} {item : Item} (w : Write) (abortNow : Int)
    (hitem : outboxDequeue s.outbox item.pending = some item)
    (hpending : item.pending = .queued ∨ item.pending = .transmitted) :
    Acts o s.ledger (s.mqttResendQueued item w abortNow).1.ledger
      ∧ ((s.mqttResendQueued item w abortNow).2 = true →
        (s.mqttResendQueued item w abortNow).1.Resent item) := by
  obtain ⟨hmem, -⟩ := mem_of_dequeue hitem
  have hdecode : Acts o s.ledger (s.decodeQueued item).ledger :=
    acts_decodeQueued hmem hpending
  have hwrote : Acts o s.ledger ((s.decodeQueued item).wrote w.ret).ledger :=
    hdecode.tail (Act.plain _ rfl)
  unfold Session.mqttResendQueued
  rcases writeData_cases (s.decodeQueued item) w with ⟨-, heq⟩ | ⟨hret, heq⟩
  · rw [heq]
    exact ⟨hwrote.trans (acts_abortConnection _ abortNow), fun h => Bool.noConfusion h⟩
  · rw [heq]
    have hdelete := acts_deleteSent (o := o)
      (s := { (s.decodeQueued item).wrote w.ret with keepaliveTick := w.now }) hret rfl
      (mem_decodeQueued hmem) fun hdup => ?_
    · exact ⟨hwrote.trans hdelete.1, fun _ => hdelete.2⟩
    · have hkeep : (s.decodeQueued item).outbox = s.outbox := if_neg (by rw [hdup]; decide)
      have hdata : (s.decodeQueued item).conn.message.data = item.buffer :=
        if_neg (by rw [hdup]; decide)
      refine ⟨?_, ?_⟩
      · show outboxDequeue (s.decodeQueued item).outbox _ = _
        rw [hkeep, hitem]
      · show some (Event.wrote (s.decodeQueued item).conn.message.data w.ret) = _
        rw [hdata]

/-! ## The rounds of the task -/

theorem acts_logData (s : Session) (evs : List MqttEvent) :
    Acts o s.ledger (s.logData evs).ledger := by
  refine Acts.plain _ fun e he => ?_
  obtain ⟨ev, -, rfl⟩ := List.mem_map.mp (List.mem_reverse.mp he)
  rfl

theorem acts_answer (s : Session) (w : Write) : Acts o s.ledger (s.answer w).1.ledger := by
  unfold Session.answer
  split_ifs
  · exact ReflTransGen.refl
  · exact acts_writeData s w

theorem acts_respond (s : Session) (msgQos : Nat) (msgId : UInt16) (e : RoundEnv) :
    Acts o s.ledger (s.respond msgQos msgId e).1.ledger := by
  unfold Session.respond
  generalize hs : (if msgQos = 1 then _ else if msgQos = 2 then _ else s : Session) = s'
  have hledger : s'.ledger = s.ledger := by
    rw [← hs]
    split_ifs <;> rfl
  rw [← hledger]
  dsimp only
  split_ifs
  · exact ReflTransGen.refl
  · exact acts_writeData s' e.ackWrite
  · exact ReflTransGen.refl

theorem acts_handlePublish (s : Session) (t : List TransportRead) (msgQos : Nat) (msgId : UInt16)
    (e : RoundEnv) : Acts o s.ledger (s.handlePublish t msgQos msgId e).1.ledger := by
  have hdelivered : Acts o s.ledger (s.delivered t).ledger :=
    acts_logData { s with rx := (deliverPublish s.rx t).1 } _
  unfold Session.handlePublish
  split_ifs
  · exact hdelivered.trans (acts_respond _ msgQos msgId e)
  · exact hdelivered

/-- A PUBREC that can be answered marks its message. -/
theorem acts_handlePubrec (s : Session) (msgId : UInt16) (e : RoundEnv) (hdrawn : o.drawn = none)
    (hdeaf : s.NoPubrel → o.deaf) :
    Acts o s.ledger ((s.emit (.received 5 msgId)).handlePubrec msgId e).1.ledger := by
  unfold Session.handlePubrec
  dsimp only
  split_ifs with hfail
  · exact ReflTransGen.single (Act.received 5 msgId hdrawn (fun n hn => absurd hn (by simp [Acks]))
      fun _ => hdeaf ⟨msgId, e.drawn, hfail⟩)
  · have hacknowledged : Acts o s.ledger ({ s with
        conn := mqttMsgPubrel s.conn msgId e.drawn
        outbox := outboxSetPending s.outbox msgId .acknowledged
        log := .received 5 msgId :: s.log } : Session).ledger :=
      ReflTransGen.single (Act.pubrec msgId hdrawn)
    exact hacknowledged.trans (acts_answer _ e.ackWrite)

theorem acts_handle (s : Session) (t : List TransportRead) (e : RoundEnv) (hdrawn : o.drawn = none)
    (hdeaf : s.NoPubrel → o.deaf) : Acts o s.ledger (s.handle t e).1.ledger := by
  unfold Session.handle Session.handleType
  generalize mqttGetType s.rx.inBuffer = type
  generalize mqttGetId s.rx.inBuffer s.rx.messageLength = msgId
  generalize mqttGetQos s.rx.inBuffer = msgQos
  dsimp only
  -- every other packet acknowledges nothing
  have hplain (h9 : type ≠ 9) (h11 : type ≠ 11) (h4 : ¬ (type = 4 ∨ type = 7)) (h5 : type ≠ 5) :
      Acts o s.ledger (s.emit (.received type msgId)).ledger :=
    ReflTransGen.single (Act.received type msgId hdrawn
      (fun n hn => absurd hn (by unfold Acks; omega)) fun h => absurd h h5)
  split_ifs with hsuback hunsuback hpublish hpuback hpubrec
  · rw [hsuback]
    exact acts_acknowledge s msgId _ hdrawn (by decide) (by decide) (by decide)
  · rw [hunsuback]
    exact acts_acknowledge s msgId _ hdrawn (by decide) (by decide) (by decide)
  · exact (hplain hsuback hunsuback (by rw [hpublish]; decide) (by rw [hpublish]; decide)).trans
      (acts_handlePublish _ t msgQos msgId e)
  · refine acts_acknowledge s msgId _ hdrawn (Or.inr (Or.inr ⟨hpuback, rfl⟩)) ?_ fun _ => rfl
    omega
  · rw [hpubrec]
    exact acts_handlePubrec s msgId e hdrawn hdeaf
  · exact (hplain hsuback hunsuback hpuback hpubrec).trans
      (acts_answer ({ s.emit (.received type msgId) with
        conn := mqttMsgPubcomp s.conn msgId e.drawn }) e.ackWrite)
  · exact hplain hsuback hunsuback hpuback hpubrec
  · exact hplain hsuback hunsuback hpuback hpubrec

theorem acts_processReceive (s : Session) (e : RoundEnv) (hdrawn : o.drawn = none)
    (hdeaf : s.NoPubrel → o.deaf) : Acts o s.ledger (s.processReceive e).1.ledger := by
  unfold Session.processReceive
  split
  · exact ReflTransGen.refl
  · next rx t _ =>
    have hhandle : Acts o s.ledger (({ s with rx := rx } : Session).handle t e).1.ledger :=
      acts_handle { s with rx := rx } t e hdrawn hdeaf
    dsimp only
    split_ifs
    · exact hhandle
    · exact hhandle

theorem acts_mqttConnect (s : Session) (e : ConnectEnv) :
    Acts o s.ledger (s.mqttConnect e).1.ledger := by
  unfold Session.mqttConnect
  dsimp only
  split_ifs
  · exact ReflTransGen.refl
  · exact ReflTransGen.single (Act.plain _ rfl)
  · exact ReflTransGen.single (Act.plain _ rfl)

theorem acts_connectRound (s : Session) (e : ConnectEnv) :
    Acts o s.ledger (s.connectRound e).ledger := by
  have hbefore : Acts o s.ledger
      (Session.emit { s with disconnectBit := false } (.dispatched .beforeConnect)).ledger :=
    ReflTransGen.single (Act.plain _ rfl)
  have hopened : Acts o s.ledger (Session.emit (Session.emit { s with disconnectBit := false }
      (.dispatched .beforeConnect)) .opened).ledger := hbefore.tail (Act.plain _ rfl)
  have hconnect := hopened.trans (acts_mqttConnect _ e)
  unfold Session.connectRound
  dsimp only
  split_ifs
  · exact hconnect.tail (Act.plain _ rfl)
  · exact hconnect.trans (acts_abortConnection _ e.abortNow)
  · exact hbefore.trans (acts_abortConnection _ e.abortNow)

theorem acts_retransmit (s : Session) (e : RoundEnv) : Acts o s.ledger (s.retransmit e).ledger := by
  unfold Session.retransmit
  split
  · next item hitem =>
    obtain ⟨-, hpending⟩ := mem_of_dequeue hitem
    rw [← hpending] at hitem
    obtain ⟨hacts, hresent⟩ :=
      acts_mqttResendQueued (o := o) e.resendWrite e.resendAbortNow hitem (Or.inl hpending)
    dsimp only
    split_ifs with hsent
    · obtain ⟨hid, hplace⟩ := hresent hsent
      refine hacts.tail (Act.transmitted _ (Or.inr ?_))
      rcases hplace with ⟨it, hmem, heq, hit⟩ | ⟨it, hlog, heq⟩
      · exact Or.inl ⟨it, hmem, heq.trans hid.symm, hit.trans hpending⟩
      · exact Or.inr ⟨it, hlog, heq.trans hid.symm⟩
    · exact hacts
  · dsimp only
    split_ifs
    · split
      · next item hitem =>
        obtain ⟨-, hpending⟩ := mem_of_dequeue hitem
        rw [← hpending] at hitem
        split_ifs
        · exact (acts_mqttResendQueued (s := { s with lastRetransmit := e.lastRetransmit })
            e.resendWrite e.resendAbortNow hitem (Or.inr hpending)).1
        · exact ReflTransGen.refl
      · exact ReflTransGen.refl
    · exact ReflTransGen.refl

theorem acts_ping (s : Session) (w : Write) : Acts o s.ledger (s.ping w).1.ledger := by
  unfold Session.ping
  dsimp only
  split_ifs
  · exact ReflTransGen.refl
  · exact acts_writeData { s with conn := mqttMsgPingreq s.conn } w

theorem acts_keepAlive (s : Session) (e : RoundEnv) :
    Acts o s.ledger (s.keepAlive e).1.ledger := by
  unfold Session.keepAlive
  dsimp only
  split_ifs
  · exact acts_abortConnection s e.abortNow
  · exact acts_ping s e.pingWrite
  · exact (acts_ping s e.pingWrite).trans (acts_abortConnection _ e.abortNow)
  · exact ReflTransGen.refl

theorem acts_refresh (s : Session) (e : RoundEnv) : Acts o s.ledger (s.refresh e).ledger := by
  unfold Session.refresh
  split_ifs
  · exact acts_abortConnection s e.abortNow
  · exact ReflTransGen.refl

theorem acts_connectedRound (s : Session) (e : RoundEnv) (hdrawn : o.drawn = none)
    (hdeaf : s.NoPubrel → o.deaf) : Acts o s.ledger (s.connectedRound e).ledger := by
  have hreceive := acts_processReceive s e hdrawn hdeaf
  have hkeep := ((hreceive.trans (acts_deleteExpired _ e.expireNow)).trans
    (acts_retransmit _ e)).trans (acts_keepAlive _ e)
  unfold Session.connectedRound
  dsimp only
  split_ifs
  · exact acts_abortConnection { s with disconnectBit := false } e.abortNow
  · exact (hkeep.trans (acts_refresh _ e)).trans (acts_cleanup _)
  · exact hkeep
  · exact hreceive.trans (acts_abortConnection _ e.abortNow)

/-! ## The interface -/

/-- A message that is counted, and stored if there is memory for it. -/
theorem acts_noted (s : Session) {msgId : UInt16} (qos : Nat) (hstart : s.outbox = o.outbox)
    (hrequest : o.drawn.isSome = true ∧ s.pendingMsgCount = o.count)
    (hid : o.drawn = some msgId ∨ msgId = 0)
    (hzero : mqttGetType s.conn.message.data = mqttMsgTypePublish ∧ qos = 0 → msgId = 0)
    (remaining : List UInt8) (a : Alloc) :
    Acts o s.ledger ((s.noted msgId qos).enqueueOversized remaining a).ledger
      ∧ Acts o s.ledger ((s.noted msgId qos).mqttEnqueue a).ledger := by
  have hlost : Acts o s.ledger (s.noted msgId qos).ledger := ReflTransGen.single (Act.lost hrequest)
  have hstored (remaining : List UInt8) :
      Acts o s.ledger ((s.noted msgId qos).enqueueOversized remaining a).ledger := by
    unfold Session.enqueueOversized
    split_ifs
    · exact ReflTransGen.single
        (Act.queued _ hstart hrequest rfl (mqttGetType_lt s.conn.message.data) hid hzero)
    · exact hlost
  refine ⟨hstored remaining, ?_⟩
  unfold Session.mqttEnqueue
  split_ifs
  · exact hstored []
  · exact hlost

/-- Induction on the writes: each takes a buffer of what is left. -/
theorem acts_sendRemaining (s : Session) (remaining : List UInt8) (ws : List Write) :
    Acts o s.ledger (s.sendRemaining remaining ws).1.ledger := by
  induction ws generalizing s remaining with
  | nil => cases remaining <;> exact ReflTransGen.refl
  | cons w ws ih =>
    cases remaining with
    | nil => exact ReflTransGen.refl
    | cons b remaining =>
      have hwrite := acts_writeData (o := o)
        (s.withData ((b :: remaining).take s.conn.bufferLength)).clearOffset w
      rw [Session.sendRemaining]
      dsimp only
      split_ifs
      · exact ReflTransGen.trans hwrite (ih _ _)
      · exact hwrite

theorem acts_sendPublish (s : Session) (p : Publish) (ws : List Write) :
    Acts o s.ledger (s.sendPublish p ws).1.ledger := by
  unfold Session.sendPublish
  cases ws with
  | nil => exact ReflTransGen.refl
  | cons w ws =>
    have hwrite := acts_writeData (o := o) s w
    dsimp only
    split_ifs
    · exact hwrite.trans (acts_sendRemaining (s.writeData w).1.clearOffset _ ws)
    · exact hwrite

/-- The id of a message that is stored or sent: the one drawn for it, or zero at QoS 0. -/
theorem mqttMsgPublish_id (c : Connection) (p : Publish) :
    (mqttMsgPublish c p.topic p.payload p.qos p.retain p.id).2
      = if 0 < p.qos then p.id.val else 0 := by
  unfold mqttMsgPublish
  dsimp only
  split
  · rfl
  · split_ifs <;> rfl

theorem acts_storePublish (s : Session) (p : Publish) {msgId : UInt16}
    (hdrawn : o.drawn = some p.id.val) (hstart : s.outbox = o.outbox)
    (hcount : s.pendingMsgCount = o.count)
    (hmsgId : msgId = if 0 < p.qos then p.id.val else 0) :
    Acts o s.ledger (s.storePublish p msgId).ledger := by
  have hid : o.drawn = some msgId ∨ msgId = 0 := by
    rw [hmsgId, hdrawn]
    split_ifs
    · exact Or.inl rfl
    · exact Or.inr rfl
  have hzero : mqttGetType s.conn.message.data = mqttMsgTypePublish ∧ p.qos = 0 → msgId = 0 :=
    fun h => by rw [hmsgId, h.2, if_neg (by decide)]
  have hrequest : o.drawn.isSome = true ∧ s.pendingMsgCount = o.count := ⟨by simp [hdrawn], hcount⟩
  have hstored (remaining : List UInt8) := acts_noted s _ hstart hrequest hid hzero remaining p.alloc
  unfold Session.storePublish
  dsimp only
  split_ifs
  · exact (hstored []).2
  · exact (hstored _).1

theorem acts_enqueuePriv (s : Session) (p : Publish) (store : Bool)
    (hdrawn : o.drawn = some p.id.val) (hstart : s.outbox = o.outbox)
    (hcount : s.pendingMsgCount = o.count) :
    Acts o s.ledger (s.enqueuePriv p store).1.ledger
      ∧ ∀ msgId, (s.enqueuePriv p store).2 = some msgId → 0 < p.qos → msgId = p.id := by
  have hmsgId := mqttMsgPublish_id s.conn p
  unfold Session.enqueuePriv
  generalize mqttMsgPublish s.conn p.topic p.payload p.qos p.retain p.id = built at hmsgId
  obtain ⟨conn, msgId⟩ := built
  have hpid : ∀ id, some msgId = some id → 0 < p.qos → id = p.id := fun id h hqos =>
    (Option.some.inj h).symm.trans (Eq.trans hmsgId (if_pos hqos))
  dsimp only
  split_ifs
  · exact ⟨ReflTransGen.refl, fun _ h => absurd h (by simp)⟩
  · exact ⟨acts_storePublish { s with conn := conn } p hdrawn hstart hcount hmsgId, hpid⟩
  · exact ⟨ReflTransGen.refl, hpid⟩

theorem acts_publish (s : Session) (p : Publish) (e : PublishEnv)
    (hdrawn : o.drawn = some p.id.val) (hstart : s.outbox = o.outbox)
    (hcount : s.pendingMsgCount = o.count) :
    Acts o s.ledger (s.publish p e).ledger := by
  obtain ⟨hacts, hid⟩ := acts_enqueuePriv s p false hdrawn hstart hcount
  unfold Session.publish
  generalize s.enqueuePriv p false = built at hacts hid
  obtain ⟨s', _ | msgId⟩ := built
  · exact hacts
  · have hsent := hacts.trans (acts_sendPublish s' p e.writes)
    dsimp only
    split_ifs with hstate hfail hqos
    · exact hacts.trans (acts_deleteExpired s' e.expireNow)
    · have hpid : msgId = p.id := hid msgId rfl hqos
      exact (hsent.tail (Act.ticked msgId e.tickNow)).tail
        (Act.transmitted msgId (Or.inl (by rw [hpid, hdrawn])))
    · exact hsent
    · exact hsent.trans (acts_abortConnection _ e.abortNow)

/-- A request that was built has drawn its id. -/
theorem requestId_of_body {c : Connection} {topic : List UInt8} {id : MsgId} {stored : UInt16}
    {f : List UInt8 → Option (List UInt8)}
    (h : (if topic = [] then none else appendMessageId c id [] >>= f) ≠ none) :
    requestId c topic id stored = id := by
  unfold requestId
  split_ifs at h ⊢ with htopic hroom
  · exact absurd rfl h
  · rw [Option.isNone_iff_eq_none.mp hroom] at h
    exact absurd rfl h
  · rfl

theorem acts_request (s : Session) {topic : List UInt8} {conn : Connection} {id : MsgId} (a : Alloc)
    (w : Write) (hdrawn : o.drawn = some id.val) (hstart : s.outbox = o.outbox)
    (hcount : s.pendingMsgCount = o.count)
    (hbuilt : conn.message.data ≠ [] →
      mqttGetType conn.message.data ≠ mqttMsgTypePublish
        ∧ requestId s.conn topic id s.pendingMsgId = id) :
    Acts o s.ledger (s.request topic conn id a w).ledger := by
  unfold Session.request
  dsimp only
  split_ifs with hstate hfail
  · exact ReflTransGen.refl
  · exact ReflTransGen.refl
  · obtain ⟨htype, hid⟩ := hbuilt hfail
    rw [hid]
    have hstored := (acts_noted (o := o) { s with conn := conn, pendingMsgId := id.val }
      s.pendingPublishQos hstart ⟨by simp [hdrawn], hcount⟩ (Or.inl hdrawn) (fun h => absurd h.1 htype) [] a).2
    generalize hnoted : Session.mqttEnqueue _ a = noted at hstored ⊢
    have hkeep : noted.pendingMsgId = id := by
      rw [← hnoted]
      unfold Session.mqttEnqueue Session.enqueueOversized
      split_ifs <;> rfl
    have hmarked : Acts o s.ledger ({ noted with
        outbox := outboxSetPending noted.outbox noted.pendingMsgId .transmitted } : Session).ledger :=
      hstored.tail (Act.transmitted _ (Or.inl (by rw [hkeep, hdrawn])))
    exact hmarked.trans (acts_writeData _ w)

theorem acts_stop (s : Session) (w : Write) : Acts o s.ledger (s.stop w).ledger := by
  unfold Session.stop
  dsimp only
  split_ifs
  · exact ReflTransGen.refl
  · exact (acts_writeData { s with conn := mqttMsgDisconnect s.conn } w).tail (Act.plain _ rfl)
  · exact ReflTransGen.single (Act.plain _ rfl)
  · exact ReflTransGen.refl

/-! ## Every step -/

/-- **Every step of the client is a chain of acts.** -/
theorem acts_step (s : Session) (i : Input) : Acts (s.origin i) s.ledger (s.step i).ledger := by
  cases i with
  | connect e =>
    rw [Session.step]
    split_ifs
    · exact acts_connectRound s e
    · exact ReflTransGen.refl
  | round e =>
    rw [Session.step]
    split_ifs
    · exact acts_connectedRound s e rfl id
    · exact ReflTransGen.refl
  | wait now =>
    rw [Session.step]
    unfold Session.waitRound
    split_ifs <;> exact ReflTransGen.refl
  | pollFailed now =>
    rw [Session.step]
    split_ifs
    · exact acts_abortConnection s now
    · exact ReflTransGen.refl
  | publish p e => exact acts_publish s p e rfl rfl rfl
  | enqueue p store => exact (acts_enqueuePriv s p store rfl rfl rfl).1
  | subscribe topic qos id a w =>
    refine acts_request s a w rfl rfl rfl fun h => ⟨?_, requestId_of_body (body_of_buildMessage h)⟩
    rw [mqttMsgSubscribe, mqttGetType_buildMessage (by decide) (by decide) h]
    decide
  | unsubscribe topic id a w =>
    refine acts_request s a w rfl rfl rfl fun h => ⟨?_, requestId_of_body (body_of_buildMessage h)⟩
    rw [mqttMsgUnsubscribe, mqttGetType_buildMessage (by decide) (by decide) h]
    decide
  | disconnect => exact ReflTransGen.refl
  | reconnect =>
    rw [Session.step]
    split_ifs <;> exact ReflTransGen.refl
  | start =>
    rw [Session.step]
    unfold Session.start
    split_ifs <;> exact ReflTransGen.refl
  | stop w => exact acts_stop s w

end ControlFan.Mqtt
