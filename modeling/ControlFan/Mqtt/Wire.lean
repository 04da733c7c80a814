import ControlFan.Mqtt.Ledger
import ControlFan.Mqtt.Packets

/-!
# Mqtt — what the client writes to a connection

The threads that publish and the client task write to one connection, and a PUBLISH that does not
fit the buffer is written in parts. What the broker gets is a CONNECT and whole packets behind
it, one after the other:

* **`wire`** — the bytes of the open connection, from the log;
* **`Framing`** — what is missing for them to be whole packets;
* **`run_framed`** — in every run nothing is missing between two steps, and at every time
  something that makes them whole.
-/

namespace ControlFan.Mqtt

open Machine Queue

/-! ## The wire -/

/-- What the broker has got from the open connection, `none` while there is none. -/
def wire : List Event → Option (List UInt8)
  | [] => none
  | .opened :: _ => some []
  | .closed :: _ => none
  | .wrote bytes ret :: es => (wire es).map (· ++ bytes.take ret.toNat)
  | _ :: es => wire es

/-- An event that does not touch the connection. -/
def Event.isQuiet : Event → Bool
  | .opened | .closed | .wrote _ _ => false
  | _ => true

/-- A packet other than CONNECT. -/
def IsMessage (bytes : List UInt8) : Prop := ∃ type, 1 < type ∧ type < 16 ∧ IsPacket type bytes

/-- A CONNECT and other packets behind it, all of them whole. -/
def Framed (bytes : List UInt8) : Prop :=
  ∃ (connect : List UInt8) (packets : List (List UInt8)), IsPacket 1 connect ∧ (∀ p ∈ packets, IsMessage p)
    ∧ bytes = connect ++ packets.flatten

/-- The write has taken all or nothing, and that of a CONNECT has not met its timeout, which the
client takes for a success. -/
def Untorn (es : List Event) : Event → Prop
  | .wrote bytes ret => ret = bytes.length ∨ ret < 0 ∨ (ret = 0 ∧ es.head? ≠ some .opened)
  | _ => True

instance (es : List Event) : (e : Event) → Decidable (Untorn es e)
  | .wrote bytes ret =>
    inferInstanceAs
      (Decidable (ret = bytes.length ∨ ret < 0 ∨ (ret = 0 ∧ es.head? ≠ some .opened)))
  | .opened | .closed | .received _ _ | .queued _ | .resent _ | .dropped _ _ | .dispatched _ | .data _ =>
    isTrue trivial

theorem Framed.message {bytes message : List UInt8} (h : Framed bytes) (hmessage : IsMessage message) :
    Framed (bytes ++ message) := by
  obtain ⟨connect, packets, hconnect, hpackets, rfl⟩ := h
  refine ⟨connect, packets ++ [message], hconnect, fun p hp => ?_, ?_⟩
  · rcases List.mem_append.mp hp with hold | hnew
    · exact hpackets p hold
    · rwa [List.mem_singleton.mp hnew]
  · rw [List.flatten_append, List.flatten_singleton, List.append_assoc]

/-! ## What is missing -/

/-- The bytes of the open connection are whole packets once `rest` is written, and they were
the start of whole packets at every time. -/
def Framing (rest : List UInt8) (log : List Event) : Prop :=
  (∀ bytes, wire log = some bytes → Framed (bytes ++ rest))
    ∧ ∀ es, es <:+ log → ∀ bytes, wire es = some bytes → ∃ rest, Framed (bytes ++ rest)

theorem Framing.cons {rest rest' : List UInt8} {log : List Event} {e : Event}
    (h : Framing rest log) (hwire : ∀ bytes, wire (e :: log) = some bytes → Framed (bytes ++ rest')) :
    Framing rest' (e :: log) := by
  refine ⟨hwire, fun es hes bytes hbytes => ?_⟩
  rcases List.suffix_cons_iff.mp hes with rfl | hes
  · exact ⟨rest', hwire bytes hbytes⟩
  · exact h.2 es hes bytes hbytes

theorem Framing.quiet {rest : List UInt8} {log : List Event} {e : Event} (h : Framing rest log)
    (he : e.isQuiet = true) : Framing rest (e :: log) := by
  refine h.cons ?_
  cases e with
  | opened | closed | wrote _ _ => exact Bool.noConfusion he
  | received _ _ | queued _ | resent _ | dropped _ _ | dispatched _ | data _ => exact h.1

theorem Framing.closed {rest : List UInt8} {log : List Event} (h : Framing rest log)
    (rest' : List UInt8) : Framing rest' (.closed :: log) :=
  h.cons fun _ hbytes => absurd hbytes (by simp [wire])

theorem Framing.begin {message : List UInt8} {log : List Event} (h : Framing [] log)
    (hmessage : IsMessage message) : Framing message log := by
  refine ⟨fun bytes hbytes => ?_, h.2⟩
  have hwhole := h.1 bytes hbytes
  rw [List.append_nil] at hwhole
  exact hwhole.message hmessage

/-- The first part of what is missing was written. -/
theorem Framing.wrote {bytes rest : List UInt8} {log : List Event} {ret : Int}
    (h : Framing (bytes ++ rest) log) (hret : ret = bytes.length) :
    Framing rest (.wrote bytes ret :: log) := by
  refine h.cons fun all hall => ?_
  obtain ⟨before, hbefore, rfl⟩ := Option.map_eq_some_iff.mp hall
  rw [hret, Int.toNat_natCast, List.take_length, List.append_assoc]
  exact h.1 before hbefore

/-- Nothing was written. -/
theorem Framing.failed {bytes rest : List UInt8} {log : List Event} {ret : Int}
    (h : Framing rest log) (hret : ret ≤ 0) : Framing rest (.wrote bytes ret :: log) := by
  refine h.cons fun all hall => ?_
  obtain ⟨before, hbefore, rfl⟩ := Option.map_eq_some_iff.mp hall
  rw [Int.toNat_of_nonpos hret, List.take_zero, List.append_nil]
  exact h.1 before hbefore

/-! ## The client between two messages -/

/-- The connection has no message that is only begun. -/
def Session.Idle (cap d : Nat) (s : Session) : Prop :=
  s.conn.message.fragmentedMsgTotalLength = 0 ∧ s.conn.drift ≤ d ∧ s.conn.bufferLength = cap

/-- What is assumed of the log for the wire: `clear` stands for what is assumed of the inputs. -/
def Watched (clear : Prop) (es : List Event) (e : Event) : Prop := clear ∧ Untorn es e

/-- Whole packets are stored, and `rest` is missing on the wire. -/
def Session.Wired (clear : Prop) (rest : List UInt8) (s : Session) : Prop :=
  (∀ item ∈ s.outbox, IsMessage item.buffer)
    ∧ (Explained (Watched clear) s.log → Framing rest s.log)

def Session.Sound (clear : Prop) (cap d : Nat) (s : Session) : Prop :=
  s.Idle cap d ∧ s.Wired clear []

variable {clear : Prop} {s : Session} {rest : List UInt8} {cap d : Nat}

theorem Session.Sound.mono (h : s.Sound clear cap d) {d' : Nat} (hd : d ≤ d') : s.Sound clear cap d' :=
  ⟨⟨h.1.1, h.1.2.1.trans hd, h.1.2.2⟩, h.2⟩

theorem framing_quiet {log : List Event} (h : Explained (Watched clear) log → Framing rest log)
    (new : List Event) (hnew : ∀ e ∈ new, e.isQuiet = true) :
    Explained (Watched clear) (new ++ log) → Framing rest (new ++ log) := by
  induction new with
  | nil => exact h
  | cons e new ih =>
    obtain ⟨he, hrest⟩ := List.forall_mem_cons.mp hnew
    exact fun huntorn => (ih hrest huntorn.2).quiet he

theorem Session.Wired.begin (h : s.Wired clear []) {message : List UInt8} (hmessage : IsMessage message) :
    s.Wired clear message :=
  ⟨h.1, fun huntorn => (h.2 huntorn).begin hmessage⟩

theorem wired_abortConnection (h : s.Wired clear rest) (now : Int) : (s.abortConnection now).Wired clear [] :=
  ⟨h.1, fun huntorn => ((h.2 huntorn.2.2).closed []).quiet rfl⟩

theorem sound_abortConnection (h : s.Sound clear cap d) (now : Int) : (s.abortConnection now).Sound clear cap d :=
  ⟨h.1, wired_abortConnection h.2 now⟩

/-- The buffer is written, or it is still missing. -/
theorem wired_wrote (h : s.Wired clear (s.conn.message.data ++ rest)) (ret : Int) :
    (0 < ret → (s.wrote ret).Wired clear rest)
      ∧ (ret ≤ 0 → (s.wrote ret).Wired clear (s.conn.message.data ++ rest)) := by
  refine ⟨fun hpos => ⟨h.1, fun huntorn => (h.2 huntorn.2).wrote ?_⟩,
    fun hneg => ⟨h.1, fun huntorn => (h.2 huntorn.2).failed hneg⟩⟩
  rcases huntorn.1.2 with hall | hfail | ⟨hzero, -⟩
  · exact hall
  · omega
  · omega

/-- A message that is written is whole, and one that is not written leaves nothing. -/
theorem sound_writeData (h : s.Sound clear cap d) (hmessage : IsMessage s.conn.message.data) (w : Write) :
    (s.writeData w).1.Sound clear cap d := by
  have hbegun : s.Wired clear (s.conn.message.data ++ []) := by
    rw [List.append_nil]
    exact h.2.begin hmessage
  have hwrote : (s.wrote w.ret).Wired clear [] := by
    rcases lt_or_ge 0 w.ret with hpos | hneg
    · exact (wired_wrote hbegun w.ret).1 hpos
    · exact ⟨h.2.1, fun huntorn => (h.2.2 huntorn.2).failed hneg⟩
  unfold Session.writeData
  split_ifs
  · exact ⟨h.1, hwrote⟩
  · exact ⟨h.1, hwrote⟩

/-- What builds a message keeps what the wire has. -/
theorem sound_builds (h : s.Sound clear cap d) {type : Nat} {conn : Connection}
    (hbuilds : Builds type s.conn conn) : Session.Sound clear cap (d + 3) { s with conn := conn } :=
  ⟨⟨hbuilds.whole, hbuilds.drift.trans (Nat.add_le_add_right h.1.2.1 3),
    hbuilds.bufferLength.trans h.1.2.2⟩, h.2⟩

theorem isMessage_of_builds {c c' : Connection} {type : Nat} (h : Builds type c c')
    (htype : 1 < type ∧ type < 16) (hdata : c'.message.data ≠ []) : IsMessage c'.message.data :=
  ⟨type, htype.1, htype.2, h.data.resolve_left hdata⟩

/-- A change of the outbox, with events that do not touch the connection. -/
theorem wired_quiet {s' : Session} (h : s.Wired clear rest) (new : List Event)
    (houtbox : ∀ item ∈ s'.outbox, IsMessage item.buffer) (hlog : s'.log = new ++ s.log)
    (hnew : ∀ e ∈ new, e.isQuiet = true) : s'.Wired clear rest := by
  refine ⟨houtbox, ?_⟩
  rw [hlog]
  exact framing_quiet h.2 new hnew

theorem sound_quiet {s' : Session} (h : s.Sound clear cap d) (new : List Event)
    (hconn : s'.conn = s.conn) (houtbox : ∀ item ∈ s'.outbox, IsMessage item.buffer)
    (hlog : s'.log = new ++ s.log) (hnew : ∀ e ∈ new, e.isQuiet = true) : s'.Sound clear cap d := by
  refine ⟨?_, wired_quiet h.2 new houtbox hlog hnew⟩
  unfold Session.Idle
  rw [hconn]
  exact h.1

theorem forall_setPending {outbox : Outbox} (h : ∀ item ∈ outbox, IsMessage item.buffer)
    (msgId : UInt16) (pending : Pending) :
    ∀ item ∈ outboxSetPending outbox msgId pending, IsMessage item.buffer :=
  forall_updateFirst h fun item hitem _ => h item hitem

theorem quiet_logDropped (items : List Item) (why : Leave) :
    ∀ e ∈ (items.map fun item => Event.dropped item why).reverse, e.isQuiet = true := by
  intro e he
  obtain ⟨item, -, rfl⟩ := List.mem_map.mp (List.mem_reverse.mp he)
  rfl

theorem wired_deleteExpired (h : s.Wired clear rest) (now : Int) :
    (s.deleteExpired now).Wired clear rest :=
  wired_quiet h _
    (fun item hitem => h.1 item ((deleteExpired_perm s.outbox now outboxExpiredTimeoutMs).mem_iff.mpr
      (List.mem_append_right _ hitem)))
    rfl (quiet_logDropped _ _)

theorem sound_deleteExpired (h : s.Sound clear cap d) (now : Int) : (s.deleteExpired now).Sound clear cap d :=
  ⟨h.1, wired_deleteExpired h.2 now⟩

theorem sound_cleanup (h : s.Sound clear cap d) : s.cleanup.Sound clear cap d :=
  sound_quiet h _ rfl
    (fun item hitem => h.2.1 item ((cleanupLoop_spec outboxMaxSize _ s.outbox).1.mem_iff.mpr
      (List.mem_append_right _ hitem)))
    rfl (quiet_logDropped _ _)

/-! ## Receiving -/

theorem sound_acknowledge (h : s.Sound clear cap d) (msgType : Nat) (msgId : UInt16) (e : EventId) :
    (s.acknowledge msgType msgId e).Sound clear cap d := by
  unfold Session.acknowledge
  rcases isValidMqttMsg_cases s msgType msgId with ⟨heq, -⟩ | ⟨item, outbox, hdelete, -, heq⟩
  · rw [heq]
    exact h
  · rw [heq]
    have hrest : ∀ it ∈ outbox, IsMessage it.buffer := fun it hit =>
      h.2.1 it ((takeFirst_perm hdelete).mem_iff.mpr (List.mem_cons_of_mem _ hit))
    show Session.Sound clear cap d (Session.emit (if e = .published then _ else _) _)
    split_ifs
    · exact sound_quiet h [.dispatched e, .dropped item .acked] rfl
        (forall_setPending hrest msgId .confirmed) rfl (by simp [Event.isQuiet])
    · exact sound_quiet h [.dispatched e, .dropped item .acked] rfl hrest rfl (by simp [Event.isQuiet])

theorem sound_answer (h : s.Sound clear cap d) (type : Nat) {conn : Connection}
    (hbuilds : Builds type s.conn conn) (htype : 1 < type ∧ type < 16) (w : Write) :
    (Session.answer { s with conn := conn } w).1.Sound clear cap (d + 3) := by
  unfold Session.answer
  split_ifs with hfail
  · exact sound_builds h hbuilds
  · exact sound_writeData (sound_builds h hbuilds) (isMessage_of_builds hbuilds htype hfail) w

theorem sound_respond (h : s.Sound clear cap d) (msgQos : Nat) (msgId : UInt16) (e : RoundEnv) :
    (s.respond msgQos msgId e).1.Sound clear cap (d + 3) := by
  have hbuilds (type : Nat) : Builds type s.conn (mqttMsgAck type 0 s.conn msgId e.drawn) :=
    builds_buildMessage h.1.1 type (by decide) _
  unfold Session.respond
  generalize hs : (if msgQos = 1 then _ else if msgQos = 2 then _ else s : Session) = built
  have hbuilt : built.Sound clear cap (d + 3)
      ∧ (msgQos = 1 ∨ msgQos = 2 → built.conn.message.data ≠ [] →
        IsMessage built.conn.message.data) := by
    rw [← hs]
    split_ifs with hqos1 hqos2
    · exact ⟨sound_builds h (hbuilds 4), fun _ => isMessage_of_builds (hbuilds 4) (by decide)⟩
    · exact ⟨sound_builds h (hbuilds 5), fun _ => isMessage_of_builds (hbuilds 5) (by decide)⟩
    · exact ⟨h.mono (Nat.le_add_right d 3), fun hqos => absurd hqos (by omega)⟩
  dsimp only
  split_ifs with hfail hqos
  · exact hbuilt.1
  · exact sound_writeData hbuilt.1 (hbuilt.2 hqos hfail) e.ackWrite
  · exact hbuilt.1

theorem sound_handlePublish (h : s.Sound clear cap d) (t : List TransportRead) (msgQos : Nat) (msgId : UInt16)
    (e : RoundEnv) : (s.handlePublish t msgQos msgId e).1.Sound clear cap (d + 3) := by
  have hdelivered : (s.delivered t).Sound clear cap d := by
    refine sound_quiet h _ rfl h.2.1 rfl fun e he => ?_
    obtain ⟨ev, -, rfl⟩ := List.mem_map.mp (List.mem_reverse.mp he)
    rfl
  unfold Session.handlePublish
  split_ifs
  · exact sound_respond hdelivered msgQos msgId e
  · exact hdelivered.mono (Nat.le_add_right d 3)

theorem sound_handlePubrec (h : s.Sound clear cap d) (msgId : UInt16) (e : RoundEnv) :
    (s.handlePubrec msgId e).1.Sound clear cap (d + 3) := by
  have hbuilds : Builds 6 s.conn (mqttMsgPubrel s.conn msgId e.drawn) :=
    builds_buildMessage h.1.1 6 (by decide) _
  unfold Session.handlePubrec
  dsimp only
  split_ifs
  · exact sound_builds h hbuilds
  · have hmarked : Session.Sound clear cap d { s with outbox := outboxSetPending s.outbox msgId .acknowledged } :=
      ⟨h.1, forall_setPending h.2.1 msgId .acknowledged, h.2.2⟩
    exact sound_answer hmarked _ hbuilds (by decide) e.ackWrite

theorem sound_handle (h : s.Sound clear cap d) (t : List TransportRead) (e : RoundEnv) :
    (s.handle t e).1.Sound clear cap (d + 3) := by
  have hle : d ≤ d + 3 := Nat.le_add_right d 3
  unfold Session.handle Session.handleType
  generalize mqttGetType s.rx.inBuffer = type
  generalize mqttGetId s.rx.inBuffer s.rx.messageLength = msgId
  generalize mqttGetQos s.rx.inBuffer = msgQos
  dsimp only
  have hreceived : (s.emit (.received type msgId)).Sound clear cap d :=
    sound_quiet h [.received type msgId] rfl h.2.1 rfl (by simp [Event.isQuiet])
  split_ifs
  · exact (sound_acknowledge hreceived _ msgId _).mono hle
  · exact (sound_acknowledge hreceived _ msgId _).mono hle
  · exact sound_handlePublish hreceived t msgQos msgId e
  · exact (sound_acknowledge hreceived _ msgId _).mono hle
  · exact sound_handlePubrec hreceived msgId e
  · exact sound_answer hreceived 7 (builds_buildMessage h.1.1 7 (by decide) _) (by decide)
      e.ackWrite
  · exact hreceived.mono hle
  · exact hreceived.mono hle

theorem sound_processReceive (h : s.Sound clear cap d) (e : RoundEnv) :
    (s.processReceive e).1.Sound clear cap (d + 3) := by
  unfold Session.processReceive
  split
  · exact h.mono (Nat.le_add_right d 3)
  · next rx t _ =>
    have hhandle : (({ s with rx := rx } : Session).handle t e).1.Sound clear cap (d + 3) :=
      sound_handle (s := { s with rx := rx }) h t e
    dsimp only
    split_ifs
    · exact hhandle
    · exact hhandle

/-! ## The rounds of the task -/

theorem IsMessage.setDup {bytes : List UInt8} (h : IsMessage bytes) : IsMessage (mqttSetDup bytes) := by
  obtain ⟨type, hlow, hhigh, hpacket⟩ := h
  exact ⟨type, hlow, hhigh, hpacket.setDup hhigh⟩

theorem sound_decodeQueued (h : s.Sound clear cap d) {item : Item} (hitem : item ∈ s.outbox) :
    (s.decodeQueued item).Sound clear cap d ∧ IsMessage (s.decodeQueued item).conn.message.data := by
  have hmessage : IsMessage item.buffer := h.2.1 item hitem
  refine ⟨⟨h.1, ?_, framing_quiet h.2.2 [.resent item] (by simp [Event.isQuiet])⟩, ?_⟩
  · show ∀ it ∈ (if item.setsDup then outboxSetDup s.outbox item.pending else s.outbox), _
    split_ifs
    · exact forall_updateFirst h.2.1 fun it hit _ => (h.2.1 it hit).setDup
    · exact h.2.1
  · show IsMessage (if item.setsDup then mqttSetDup item.buffer else item.buffer)
    split_ifs
    · exact hmessage.setDup
    · exact hmessage

theorem sound_deleteSent (h : s.Sound clear cap d) (item : Item) : (s.deleteSent item).Sound clear cap d := by
  unfold Session.deleteSent
  split_ifs
  · cases hdelete : outboxDeleteItem s.outbox item.pending with
    | none => exact h
    | some taken =>
      exact sound_quiet h [.dropped taken.1 .sent] rfl
        (fun it hit => h.2.1 it ((takeFirst_perm hdelete).mem_iff.mpr (List.mem_cons_of_mem _ hit)))
        rfl (by simp [Event.isQuiet])
  · exact h

theorem sound_mqttResendQueued (h : s.Sound clear cap d) {item : Item} (hitem : item ∈ s.outbox) (w : Write)
    (abortNow : Int) : (s.mqttResendQueued item w abortNow).1.Sound clear cap d := by
  obtain ⟨hdecode, hmessage⟩ := sound_decodeQueued h hitem
  have hwrite := sound_writeData hdecode hmessage w
  unfold Session.mqttResendQueued
  rcases writeData_cases (s.decodeQueued item) w with ⟨-, heq⟩ | ⟨-, heq⟩
  · rw [heq] at hwrite ⊢
    exact sound_abortConnection hwrite abortNow
  · rw [heq] at hwrite ⊢
    exact sound_deleteSent hwrite item

theorem sound_retransmit (h : s.Sound clear cap d) (e : RoundEnv) : (s.retransmit e).Sound clear cap d := by
  unfold Session.retransmit
  split
  · next item hitem =>
    have hresend := sound_mqttResendQueued h (mem_of_dequeue hitem).1 e.resendWrite e.resendAbortNow
    dsimp only
    split_ifs
    · exact ⟨hresend.1, forall_setPending hresend.2.1 _ .transmitted, hresend.2.2⟩
    · exact hresend
  · dsimp only
    split_ifs
    · split
      · next item hitem =>
        split_ifs
        · exact sound_mqttResendQueued (s := { s with lastRetransmit := e.lastRetransmit }) h
            (mem_of_dequeue hitem).1 e.resendWrite e.resendAbortNow
        · exact h
      · exact h
    · exact h

theorem sound_keepAlive (h : s.Sound clear cap d) (e : RoundEnv) : (s.keepAlive e).1.Sound clear cap (d + 3) := by
  have hbuilds : Builds 12 s.conn (mqttMsgPingreq s.conn) :=
    builds_buildMessage h.1.1 12 (by decide) _
  have hping : (s.ping e.pingWrite).1.Sound clear cap (d + 3) := by
    unfold Session.ping
    dsimp only
    split_ifs with hfail
    · exact sound_builds h hbuilds
    · exact sound_writeData (sound_builds h hbuilds)
        (isMessage_of_builds hbuilds (by decide) hfail) e.pingWrite
  unfold Session.keepAlive
  dsimp only
  split_ifs
  · exact (sound_abortConnection h e.abortNow).mono (Nat.le_add_right d 3)
  · exact hping
  · exact sound_abortConnection hping e.abortNow
  · exact h.mono (Nat.le_add_right d 3)

theorem sound_refresh (h : s.Sound clear cap d) (e : RoundEnv) : (s.refresh e).Sound clear cap d := by
  unfold Session.refresh
  split_ifs
  · exact sound_abortConnection h e.abortNow
  · exact h

theorem sound_connectedRound (h : s.Sound clear cap d) (e : RoundEnv) : (s.connectedRound e).Sound clear cap (d + 6) := by
  have hreceive := sound_processReceive h e
  have hkeep := sound_keepAlive
    (sound_retransmit (sound_deleteExpired hreceive e.expireNow) e) e
  unfold Session.connectedRound
  dsimp only
  split_ifs
  · exact (sound_abortConnection (s := { s with disconnectBit := false }) h e.abortNow).mono
      (Nat.le_add_right d 6)
  · exact sound_cleanup (sound_refresh hkeep e)
  · exact hkeep
  · exact (sound_abortConnection hreceive e.abortNow).mono (Nat.add_le_add_left (by decide) d)

/-- A connection that has just been opened misses its CONNECT. -/
theorem Session.Wired.opened (h : s.Wired clear []) {connect : List UInt8} (hconnect : IsPacket 1 connect) :
    (s.emit .opened).Wired clear connect := by
  refine ⟨h.1, fun huntorn => (h.2 huntorn.2).cons fun bytes hbytes => ?_⟩
  obtain rfl := Option.some.inj hbytes
  exact ⟨connect, [], hconnect, by simp, by simp⟩

/-- The CONNECT is written, or the connection will be closed. -/
theorem wired_mqttConnect (h : s.Sound clear cap d) (e : ConnectEnv) :
    ((s.emit .opened).mqttConnect e).1.Idle cap (d + 3)
      ∧ ∃ rest, ((s.emit .opened).mqttConnect e).1.Wired clear rest
        ∧ (((s.emit .opened).mqttConnect e).2 = true → rest = []) := by
  have hbuilds : Builds 1 s.conn (mqttMsgConnect s.conn s.info) :=
    builds_buildMessage h.1.1 1 (by decide) _
  have hidle : Session.Idle cap (d + 3) { s with conn := mqttMsgConnect s.conn s.info } :=
    (sound_builds h hbuilds).1
  unfold Session.mqttConnect
  dsimp only
  split_ifs with hfail hret
  · have hsome : IsPacket 1 (packet 1 0 0 0 []) :=
      ⟨0, by decide, 0, by decide, 0, by decide, [], by decide, rfl⟩
    exact ⟨hidle, _, h.2.opened hsome, fun hok => hok.elim⟩
  · have hopened := h.2.opened (hbuilds.data.resolve_left hfail)
    exact ⟨hidle, _, ⟨h.2.1, fun huntorn => (hopened.2 huntorn.2).failed hret.le⟩,
      fun hok => hok.elim⟩
  · have hopened := h.2.opened (hbuilds.data.resolve_left hfail)
    refine ⟨hidle, [], ⟨h.2.1, fun huntorn => Framing.wrote ?_ ?_⟩, fun _ => rfl⟩
    · rw [List.append_nil]
      exact hopened.2 huntorn.2
    · -- a failure was excluded by the client, and a timeout by the assumption
      rcases huntorn.1.2 with hall | hneg | ⟨-, hhead⟩
      · exact hall
      · exact absurd hneg hret
      · exact absurd rfl hhead

theorem sound_connectRound (h : s.Sound clear cap d) (e : ConnectEnv) : (s.connectRound e).Sound clear cap (d + 6) := by
  have hbefore : (Session.emit { s with disconnectBit := false } (.dispatched .beforeConnect)).Sound clear cap d :=
    sound_quiet h [.dispatched .beforeConnect] rfl h.2.1 rfl (by simp [Event.isQuiet])
  unfold Session.connectRound
  generalize Session.emit { s with disconnectBit := false } _ = s' at hbefore ⊢
  dsimp only
  split_ifs with htransport hconnected
  · obtain ⟨hidle, rest, hwired, hrest⟩ := wired_mqttConnect hbefore e
    rw [hrest hconnected] at hwired
    have hsound : ((s'.emit .opened).mqttConnect e).1.Sound clear cap (d + 3) := ⟨hidle, hwired⟩
    refine Session.Sound.mono (d := d + 3) ?_ (Nat.add_le_add_left (by decide) d)
    exact sound_quiet hsound [.dispatched .connected] rfl hsound.2.1 rfl (by simp [Event.isQuiet])
  · obtain ⟨hidle, rest, hwired, -⟩ := wired_mqttConnect hbefore e
    refine Session.Sound.mono (d := d + 3) ?_ (Nat.add_le_add_left (by decide) d)
    exact ⟨hidle, wired_abortConnection hwired e.abortNow⟩
  · exact (sound_abortConnection hbefore e.abortNow).mono (Nat.le_add_right d 6)

/-! ## Publishing -/

/-- The start of a message is written, or all of it is missing. -/
theorem wired_start (h : s.Wired clear [])
    (hmessage : clear → IsMessage (s.conn.message.data ++ rest)) (ret : Int) :
    (0 < ret → (s.wrote ret).Wired clear rest)
      ∧ (ret ≤ 0 → (s.wrote ret).Wired clear (s.conn.message.data ++ rest)) :=
  ⟨fun hpos => ⟨h.1, fun huntorn =>
      ((wired_wrote (h.begin (hmessage huntorn.1.1)) ret).1 hpos).2 huntorn⟩,
    fun hneg => ⟨h.1, fun huntorn =>
      ((wired_wrote (h.begin (hmessage huntorn.1.1)) ret).2 hneg).2 huntorn⟩⟩

theorem idle_clearOffset (hcap : s.conn.bufferLength = cap) : s.clearOffset.Idle cap 0 := by
  refine ⟨rfl, ?_, hcap⟩
  show (0 - 0 : UInt32).toNat ≤ 0
  decide

/-- The loop writes what is missing, buffer by buffer. Induction on the writes. -/
theorem wired_sendRemaining (h : s.Idle cap 0) {remaining : List UInt8} (hwired : s.Wired clear remaining)
    (ws : List Write) :
    (s.sendRemaining remaining ws).1.Idle cap 0
      ∧ ∃ rest, (s.sendRemaining remaining ws).1.Wired clear rest
        ∧ ((s.sendRemaining remaining ws).2 = true → rest = []) := by
  induction ws generalizing s remaining with
  | nil =>
    cases remaining with
    | nil => exact ⟨h, [], hwired, fun _ => rfl⟩
    | cons b remaining => exact ⟨h, _, hwired, fun hok => absurd hok Bool.false_ne_true⟩
  | cons w ws ih =>
    cases remaining with
    | nil => exact ⟨h, [], hwired, fun _ => rfl⟩
    | cons b remaining =>
      have hroom : s.conn.bufferLength = s.conn.bufferLength - 1 + 1 := by
        have := s.conn.hroom
        unfold mqttMaxFixedHeaderSize at this
        omega
      have hsplit : (b :: remaining).take s.conn.bufferLength
          ++ remaining.drop (s.conn.bufferLength - 1) = b :: remaining := by
        rw [hroom, List.take_succ_cons, Nat.add_sub_cancel, List.cons_append,
          List.take_append_drop]
      rw [← hsplit] at hwired
      rw [Session.sendRemaining]
      generalize hs : (s.withData ((b :: remaining).take s.conn.bufferLength)).clearOffset = s'
      have hidle : s'.Idle cap 0 := by
        rw [← hs]
        exact idle_clearOffset h.2.2
      have hpart : s'.Wired clear (s'.conn.message.data
          ++ remaining.drop (s'.conn.bufferLength - 1)) := by
        rw [← hs]
        exact hwired
      rcases writeData_cases s' w with ⟨hneg, heq⟩ | ⟨hpos, heq⟩
      · rw [heq]
        exact ⟨hidle, _, (wired_wrote hpart w.ret).2 hneg, fun hok => absurd hok Bool.false_ne_true⟩
      · rw [heq]
        exact ih (s := { s'.wrote w.ret with keepaliveTick := w.now }) hidle
          ((wired_wrote hpart w.ret).1 hpos)

/-- The remaining length of the message. -/
def Publish.length (p : Publish) : Nat := publishLength p.topic p.payload p.qos

/-- A PUBLISH that the protocol has. -/
structure Publish.Legal (p : Publish) : Prop where
  qos : p.qos < 3
  length : p.length ≤ maxRemaining

/-- The buffer holds the message, or the start of it. -/
def Publish.IsIn (p : Publish) (d : Nat) (c : Connection) : Prop :=
  (p.length ≤ c.room ∧ c.drift ≤ d ∧ IsMessage c.message.data
      ∧ p.payload.data.length ≤ c.message.data.length)
    ∨ (c.room < p.length
      ∧ IsMessage (c.message.data ++ p.payload.data.drop c.firstFragment.toNat))

theorem sound_enqueueOversized (h : s.Wired clear rest) {remaining : List UInt8}
    (hmessage : IsMessage (s.conn.message.data ++ remaining)) (a : Alloc) :
    (s.enqueueOversized remaining a).Wired clear rest := by
  unfold Session.enqueueOversized
  split_ifs
  · refine ⟨fun item hitem => ?_, framing_quiet h.2 [_] (by simp [Event.isQuiet])⟩
    rcases List.mem_append.mp hitem with hold | hnew
    · exact h.1 item hold
    · rw [List.mem_singleton.mp hnew]
      exact hmessage
  · exact h

theorem enqueueOversized_conn (s : Session) (remaining : List UInt8) (a : Alloc) :
    (s.enqueueOversized remaining a).conn = s.conn := by
  unfold Session.enqueueOversized
  split_ifs <;> rfl

theorem storePublish_bufferLength (s : Session) (p : Publish) (msgId : UInt16) :
    (s.storePublish p msgId).conn.bufferLength = s.conn.bufferLength := by
  unfold Session.storePublish Session.mqttEnqueue Session.clearFragmented
  dsimp only
  split_ifs
  · rw [enqueueOversized_conn]
    rfl
  · rfl
  · rw [enqueueOversized_conn]
    rfl

theorem sound_storePublish {p : Publish} (h : s.Wired clear []) (hin : p.IsIn d s.conn)
    (htotal : s.conn.message.fragmentedMsgTotalLength = 0 ↔ p.length ≤ s.conn.room)
    (msgId : UInt16) :
    (s.storePublish p msgId).Wired clear [] ∧ p.IsIn d (s.storePublish p msgId).conn
      ∧ (s.storePublish p msgId).conn.message.fragmentedMsgTotalLength = 0 := by
  have hnoted : (s.noted msgId p.qos).Wired clear [] := h
  unfold Session.storePublish
  dsimp only
  split_ifs with hwhole
  · have hmessage : IsMessage ((s.noted msgId p.qos).conn.message.data ++ []) := by
      rw [List.append_nil]
      rcases hin with ⟨-, -, hmessage, -⟩ | ⟨hcut, -⟩
      · exact hmessage
      · exact absurd (htotal.mp hwhole) (Nat.not_le.mpr hcut)
    unfold Session.mqttEnqueue
    split_ifs
    · rw [enqueueOversized_conn]
      exact ⟨sound_enqueueOversized hnoted hmessage p.alloc, hin, hwhole⟩
    · exact ⟨hnoted, hin, hwhole⟩
  · rcases hin with ⟨hfits, -⟩ | ⟨hcut, hmessage⟩
    · exact absurd (htotal.mpr hfits) hwhole
    · have hstored := sound_enqueueOversized hnoted hmessage p.alloc
      refine ⟨hstored, ?_, rfl⟩
      unfold Session.clearFragmented
      rw [enqueueOversized_conn]
      exact Or.inr ⟨hcut, hmessage⟩

theorem toInt32_of_lt {n : Nat} (hn : n < 2 ^ 31) : toInt32 n = n := by
  unfold toInt32
  exact Int.bmod_eq_of_le (by omega) (by omega)

/-- What `mqtt_msg_publish` leaves is in the buffer. -/
theorem isIn_mqttMsgPublish {c : Connection} (hwhole : c.message.fragmentedMsgTotalLength = 0)
    (hdrift : c.drift ≤ d) {p : Publish} (hlegal : p.Legal) {built : Connection}
    (hbuilt : (mqttMsgPublish c p.topic p.payload p.qos p.retain p.id).1 = built) :
    built.bufferLength = c.bufferLength
      ∧ (built.message.data = [] →
        built.message.fragmentedMsgTotalLength = 0 ∧ built.drift ≤ d + 3)
      ∧ (built.message.data ≠ [] → p.IsIn (d + 3) built
        ∧ (built.message.fragmentedMsgTotalLength = 0 ↔ p.length ≤ built.room)) := by
  have hspec := mqttMsgPublish_spec hwhole p.topic p.payload hlegal.qos p.retain p.id hlegal.length
  rw [hbuilt] at hspec
  rcases hspec with ⟨hbuilds, hfits⟩ | ⟨hcut, k, hbegins⟩
  · have hroom : built.room = c.room := congrArg (· - mqttMaxFixedHeaderSize) hbuilds.bufferLength
    have hle : built.drift ≤ d + 3 := hbuilds.drift.trans (Nat.add_le_add_right hdrift 3)
    refine ⟨hbuilds.bufferLength, fun _ => ⟨hbuilds.whole, hle⟩, fun hdata => ?_⟩
    obtain ⟨hlength, hpayload⟩ := hfits hdata
    have hlength : p.length ≤ built.room := hroom ▸ hlength
    exact ⟨Or.inl ⟨hlength, hle, isMessage_of_builds hbuilds (by decide) hdata, hpayload⟩,
      fun _ => hlength, fun _ => hbuilds.whole⟩
  · have hroom : built.room = c.room := congrArg (· - mqttMaxFixedHeaderSize) hbegins.bufferLength
    have hcut : built.room < p.length := hroom ▸ hcut
    refine ⟨hbegins.bufferLength, fun hdata => absurd hdata hbegins.ne_nil, fun _ => ⟨?_, ?_⟩⟩
    · refine Or.inr ⟨hcut, mqttMsgTypePublish, by decide, by decide, ?_⟩
      unfold Connection.firstFragment
      rw [hbegins.offset, toInt32_of_lt hbegins.small]
      exact hbegins.data
    · exact ⟨fun hzero => absurd hzero hbegins.begun, fun hle => absurd hle (Nat.not_le.mpr hcut)⟩

/-- The message is in the buffer, and stored as a whole if it is stored. -/
theorem sound_enqueuePriv {p : Publish} (h : s.Sound clear cap d) (hlegal : p.Legal) (store : Bool) :
    (s.enqueuePriv p store).1.Wired clear []
      ∧ (s.enqueuePriv p store).1.conn.bufferLength = cap
      ∧ ((s.enqueuePriv p store).2 = none → (s.enqueuePriv p store).1.Idle cap (d + 3))
      ∧ ∀ msgId, (s.enqueuePriv p store).2 = some msgId →
        p.IsIn (d + 3) (s.enqueuePriv p store).1.conn
          ∧ (0 < p.qos ∨ store = true ∨ p.length ≤ s.conn.room →
            (s.enqueuePriv p store).1.conn.message.fragmentedMsgTotalLength = 0) := by
  obtain ⟨hbuffer, hfail, hin⟩ := isIn_mqttMsgPublish h.1.1 h.1.2.1 hlegal rfl
  unfold Session.enqueuePriv
  generalize mqttMsgPublish s.conn p.topic p.payload p.qos p.retain p.id = built at hbuffer hfail hin
  obtain ⟨conn, msgId⟩ := built
  have hwired : Session.Wired clear [] { s with conn := conn } := h.2
  dsimp only at hbuffer hfail hin ⊢
  have hroom : conn.room = s.conn.room := congrArg (· - mqttMaxFixedHeaderSize) hbuffer
  have hcap : conn.bufferLength = cap := hbuffer.trans h.1.2.2
  split_ifs with hdata hstored
  · exact ⟨hwired, hcap, fun _ => ⟨(hfail hdata).1, (hfail hdata).2, hcap⟩,
      fun _ h => absurd h (by simp)⟩
  · obtain ⟨hin, htotal⟩ := hin hdata
    obtain ⟨hwired, hin, hzero⟩ := sound_storePublish (s := { s with conn := conn }) hwired hin htotal
      msgId
    exact ⟨hwired, (storePublish_bufferLength _ p msgId).trans hcap, fun h => absurd h (by simp),
      fun _ _ => ⟨hin, fun _ => hzero⟩⟩
  · obtain ⟨hin, htotal⟩ := hin hdata
    refine ⟨hwired, hcap, fun h => absurd h (by simp), fun _ _ => ⟨hin, fun hwhole => ?_⟩⟩
    rcases hwhole with hqos | hstore | hfits
    · exact absurd (Or.inl hqos) hstored
    · exact absurd (Or.inr hstore) hstored
    · exact htotal.mpr (hroom ▸ hfits)

theorem length_counted_le (p : Publish) : p.counted.length ≤ p.payload.data.length := by
  unfold Publish.counted Publish.payload Payload.of
  cases p.data with
  | none => exact (congrArg List.length List.take_nil).trans_le (Nat.zero_le _)
  | some data =>
    by_cases hlen : p.len = 0
    · rw [hlen]
      exact Nat.zero_le _
    · show (data.take p.len).length ≤ (if p.len = 0 then _ else _ : Payload).data.length
      rw [if_neg hlen]
      exact le_rfl

theorem counted_eq {p : Publish} (hlen : p.len ≠ 0) : p.counted = p.payload.data := by
  unfold Publish.counted Publish.payload Payload.of
  cases p.data with
  | none => exact List.take_nil
  | some data =>
    show data.take p.len = (if p.len = 0 then _ else _ : Payload).data
    rw [if_neg hlen]
    rfl

/-- What is left of the payload behind a message that is complete, or of which the start was
written. -/
theorem drop_counted {p : Publish} {c : Connection} (hin : p.IsIn d c)
    (hstring : p.len = 0 → p.length ≤ c.room) (hdrift : p.length ≤ c.room → c.drift < 2 ^ 30) :
    IsMessage (c.message.data ++ p.counted.drop c.firstFragment.toNat) := by
  rcases hin with ⟨hfits, -, hmessage, hpayload⟩ | ⟨hcut, hmessage⟩
  · have hlong : c.message.data.length ≤ maxRemaining + 5 := by
      obtain ⟨type, -, -, hpacket⟩ := hmessage
      exact hpacket.length_le
    have hmax : maxRemaining + 5 < 2 ^ 29 := by decide
    have hdrift := hdrift hfits
    have hsent : (UInt32.ofNat c.message.data.length - c.message.fragmentedMsgDataOffset).toNat
        = c.message.data.length + c.drift := by
      have hsum : UInt32.ofNat c.message.data.length - c.message.fragmentedMsgDataOffset
          = UInt32.ofNat c.message.data.length + (0 - c.message.fragmentedMsgDataOffset) := by
        rw [UInt32.sub_eq_add_neg, UInt32.sub_eq_add_neg 0, UInt32.zero_add]
      rw [hsum, UInt32.toNat_add, UInt32.toNat_ofNat_of_lt' (by
        show _ < 2 ^ 32
        omega)]
      exact Nat.mod_eq_of_lt (by
        show _ + c.drift < 2 ^ 32
        omega)
    unfold Connection.firstFragment
    rw [hsent, toInt32_of_lt (by omega), Int.toNat_natCast, List.drop_of_length_le (by
      have := length_counted_le p
      omega), List.append_nil]
    exact hmessage
  · rw [counted_eq fun hlen => absurd (hstring hlen) (Nat.not_le.mpr hcut)]
    exact hmessage

theorem wired_sendPublish {p : Publish} (h : s.Wired clear [])
    (hcap : s.conn.bufferLength = cap) (hin : p.IsIn d s.conn)
    (hstring : p.len = 0 → p.length ≤ s.conn.room)
    (hdrift : clear → p.length ≤ s.conn.room → s.conn.drift < 2 ^ 30) (ws : List Write) :
    ((s.sendPublish p ws).2 = true → (s.sendPublish p ws).1.Sound clear cap 0)
      ∧ ∃ rest, (s.sendPublish p ws).1.Wired clear rest
        ∧ (s.sendPublish p ws).1.conn.drift ≤ s.conn.drift
        ∧ (s.sendPublish p ws).1.conn.bufferLength = cap := by
  cases ws with
  | nil => exact ⟨fun hok => absurd hok Bool.false_ne_true, [], h, le_rfl, hcap⟩
  | cons w ws =>
    obtain ⟨hsent, hfailed⟩ := wired_start h
      (fun hclear => drop_counted hin hstring (hdrift hclear)) w.ret
    rcases writeData_cases s w with ⟨hneg, heq⟩ | ⟨hpos, heq⟩
    · have hsend : s.sendPublish p (w :: ws) = (s.wrote w.ret, false) := by
        unfold Session.sendPublish
        dsimp only
        rw [heq]
        rfl
      rw [hsend]
      exact ⟨fun hok => absurd hok Bool.false_ne_true, _, hfailed hneg, le_rfl, hcap⟩
    · have hsend : s.sendPublish p (w :: ws)
          = Session.sendRemaining (Session.clearOffset { s.wrote w.ret with keepaliveTick := w.now })
            (p.counted.drop s.conn.firstFragment.toNat) ws := by
        unfold Session.sendPublish
        dsimp only
        rw [heq]
        exact if_pos rfl
      obtain ⟨hidle, left, hwired, hleft⟩ := wired_sendRemaining
        (s := Session.clearOffset { s.wrote w.ret with keepaliveTick := w.now })
        (idle_clearOffset hcap) (hsent hpos) ws
      rw [← hsend] at hidle hwired hleft
      refine ⟨fun hok => ?_, left, hwired, hidle.2.1.trans (Nat.zero_le _), hidle.2.2⟩
      rw [hleft hok] at hwired
      exact ⟨hidle, hwired⟩

theorem drift_of_isIn {p : Publish} {c : Connection} (hin : p.IsIn d c) {d' : Nat} (hd : d ≤ d')
    (hcut : c.room < p.length → 2 ^ 32 ≤ d') : c.drift ≤ d' := by
  rcases hin with ⟨-, hdrift, -⟩ | ⟨hlong, -⟩
  · exact hdrift.trans hd
  · exact (Nat.le_of_lt (UInt32.toNat_lt _)).trans (hcut hlong)

theorem sound_publish {p : Publish} (h : s.Sound clear cap d) (hlegal : p.Legal)
    (hstring : p.len = 0 → p.length ≤ s.conn.room)
    (hclear : clear → p.length ≤ s.conn.room → s.conn.drift < 2 ^ 29) {d' : Nat} (hd : d + 3 ≤ d')
    (hcut : s.conn.room < p.length → 2 ^ 32 ≤ d') (e : PublishEnv) :
    (s.publish p e).Sound clear cap d' := by
  obtain ⟨hwired, hcap, hnone, hsome⟩ := sound_enqueuePriv (d := s.conn.drift)
    ⟨⟨h.1.1, le_rfl, h.1.2.2⟩, h.2⟩ hlegal false
  have hle : s.conn.drift + 3 ≤ d' := (Nat.add_le_add_right h.1.2.1 3).trans hd
  unfold Session.publish
  generalize s.enqueuePriv p false = built at hwired hcap hnone hsome
  obtain ⟨s', _ | msgId⟩ := built
  · obtain ⟨hwhole, hdrift, -⟩ := hnone rfl
    exact ⟨⟨hwhole, hdrift.trans hle, hcap⟩, hwired⟩
  · obtain ⟨hin, -⟩ := hsome msgId rfl
    dsimp only at hwired hcap hin ⊢
    have hroom : s'.conn.room = s.conn.room :=
      congrArg (· - mqttMaxFixedHeaderSize) (hcap.trans h.1.2.2.symm)
    rw [← hroom] at hstring hclear hcut
    have hdrift : s'.conn.drift ≤ d' := drift_of_isIn hin hle hcut
    obtain ⟨hok, rest, hfailed, hdrift', hcap'⟩ := wired_sendPublish hwired hcap hin hstring
      (fun hc hfits => by
        rcases hin with ⟨-, hlow, -⟩ | ⟨hlong, -⟩
        · have := hclear hc hfits
          omega
        · exact absurd hfits (Nat.not_le.mpr hlong)) e.writes
    split_ifs with hstate hsent hqos
    · exact ⟨⟨rfl, hdrift, hcap⟩, wired_deleteExpired hwired e.expireNow⟩
    · have hsound := (hok hsent).mono (Nat.zero_le d')
      refine ⟨hsound.1, forall_setPending ?_ msgId .transmitted, hsound.2.2⟩
      exact forall_updateFirst hsound.2.1 fun item hitem _ => hsound.2.1 item hitem
    · exact (hok hsent).mono (Nat.zero_le d')
    · exact ⟨⟨rfl, hdrift'.trans hdrift, hcap'⟩, wired_abortConnection hfailed e.abortNow⟩

theorem sound_enqueue {p : Publish} (h : s.Sound clear cap d) (hlegal : p.Legal) {store : Bool}
    (hkept : 0 < p.qos ∨ store = true ∨ p.length ≤ s.conn.room) {d' : Nat} (hd : d + 3 ≤ d')
    (hcut : s.conn.room < p.length → 2 ^ 32 ≤ d') : (s.enqueue p store).Sound clear cap d' := by
  obtain ⟨hwired, hcap, hnone, hsome⟩ := sound_enqueuePriv h hlegal store
  unfold Session.enqueue
  generalize s.enqueuePriv p store = built at hwired hcap hnone hsome
  obtain ⟨s', _ | msgId⟩ := built
  · obtain ⟨hwhole, hdrift, -⟩ := hnone rfl
    exact ⟨⟨hwhole, hdrift.trans hd, hcap⟩, hwired⟩
  · obtain ⟨hin, hwhole⟩ := hsome msgId rfl
    have hroom : s'.conn.room = s.conn.room :=
      congrArg (· - mqttMaxFixedHeaderSize) (hcap.trans h.1.2.2.symm)
    rw [← hroom] at hcut
    exact ⟨⟨hwhole hkept, drift_of_isIn hin hd hcut, hcap⟩, hwired⟩

theorem sound_request (h : s.Sound clear cap d) (topic : List UInt8) {type : Nat} {conn : Connection}
    (hbuilds : Builds type s.conn conn) (htype : 1 < type ∧ type < 16) (id : MsgId) (a : Alloc)
    (w : Write) : (s.request topic conn id a w).Sound clear cap (d + 3) := by
  unfold Session.request
  dsimp only
  split_ifs with hstate hfail
  · exact h.mono (Nat.le_add_right d 3)
  · exact sound_builds h hbuilds
  · have hmessage : IsMessage conn.message.data := isMessage_of_builds hbuilds htype hfail
    have hbuilt := sound_builds h hbuilds
    generalize hnoted : Session.noted _ _ _ = noted
    have hconn : noted.conn = conn := by rw [← hnoted]; rfl
    have hsound : noted.Sound clear cap (d + 3) := by rw [← hnoted]; exact hbuilt
    have hstored : (noted.mqttEnqueue a).Sound clear cap (d + 3)
        ∧ (noted.mqttEnqueue a).conn = conn := by
      unfold Session.mqttEnqueue
      split_ifs
      · rw [enqueueOversized_conn]
        refine ⟨⟨?_, sound_enqueueOversized hsound.2 ?_ a⟩, hconn⟩
        · unfold Session.Idle
          rw [enqueueOversized_conn]
          exact hsound.1
        · rw [List.append_nil, hconn]
          exact hmessage
      · exact ⟨hsound, hconn⟩
    obtain ⟨hstored, hkeep⟩ := hstored
    have hmarked : Session.Sound clear cap (d + 3) { noted.mqttEnqueue a with
        outbox := outboxSetPending (noted.mqttEnqueue a).outbox (noted.mqttEnqueue a).pendingMsgId
          .transmitted } :=
      ⟨hstored.1, forall_setPending hstored.2.1 _ .transmitted, hstored.2.2⟩
    refine sound_writeData hmarked ?_ w
    show IsMessage (noted.mqttEnqueue a).conn.message.data
    rw [hkeep]
    exact hmessage

theorem sound_stop (h : s.Sound clear cap d) (w : Write) : (s.stop w).Sound clear cap (d + 3) := by
  have hbuilds : Builds 14 s.conn (mqttMsgDisconnect s.conn) :=
    builds_buildMessage h.1.1 14 (by decide) _
  have hended {s' : Session} (h : s'.Sound clear cap (d + 3)) : Session.Sound clear cap (d + 3) { s' with
      run := false
      state := .unknown
      rx := { s'.rx with connected := false }
      log := .closed :: s'.log } :=
    ⟨h.1, h.2.1, fun huntorn => (h.2.2 huntorn.2).closed []⟩
  unfold Session.stop
  dsimp only
  split_ifs with hrun hstate hfail
  · exact sound_builds h hbuilds
  · exact hended (sound_writeData (sound_builds h hbuilds)
      (isMessage_of_builds hbuilds (by decide) hfail) w)
  · exact hended (h.mono (Nat.le_add_right d 3))
  · exact h.mono (Nat.le_add_right d 3)

/-! ## Every run -/

/-- The room behind the fixed header, and whether a message is longer. -/
def Input.Cuts (room : Nat) : Input → Prop
  | .publish p _ | .enqueue p _ => room < p.length
  | _ => False

/-- What the client needs of an input: a PUBLISH that the protocol has, no string that is longer
than the buffer, of which only the start would be sent, and no message of QoS 0 that is cut and not
stored, which would stay begun. -/
def Input.Legal (room : Nat) : Input → Prop
  | .publish p _ => p.Legal ∧ (p.len = 0 → p.length ≤ room)
  | .enqueue p store => p.Legal ∧ (0 < p.qos ∨ store = true ∨ p.length ≤ room)
  | _ => True

/-- A message that fits is not published while the offset of an earlier one that was cut is left
over: the sending loop would take it for this one's. -/
def Input.Clear (s : Session) : Input → Prop
  | .publish p _ => p.length ≤ s.conn.room → s.conn.drift < 2 ^ 29
  | _ => True

instance (s : Session) : (i : Input) → Decidable (i.Clear s)
  | .publish p _ => inferInstanceAs (Decidable (p.length ≤ s.conn.room → s.conn.drift < 2 ^ 29))
  | .connect _ | .round _ | .wait _ | .pollFailed _ | .enqueue _ _ | .subscribe _ _ _ _ _
  | .unsubscribe _ _ _ _ | .disconnect | .reconnect | .start | .stop _ => isTrue trivial

theorem sound_step (h : s.Sound clear cap d) {i : Input} (hlegal : i.Legal s.conn.room)
    (hclear : clear → i.Clear s) (d' : Nat) (hd : d + 6 ≤ d')
    (hcut : i.Cuts s.conn.room → 2 ^ 32 ≤ d') : (s.step i).Sound clear cap d' := by
  have hle : d ≤ d' := (Nat.le_add_right d 6).trans hd
  have hle3 : d + 3 ≤ d' := (Nat.add_le_add_left (by decide) d).trans hd
  cases i with
  | connect e =>
    rw [Session.step]
    split_ifs
    · exact (sound_connectRound h e).mono hd
    · exact h.mono hle
  | round e =>
    rw [Session.step]
    split_ifs
    · exact (sound_connectedRound h e).mono hd
    · exact h.mono hle
  | wait now =>
    rw [Session.step]
    unfold Session.waitRound
    split_ifs <;> exact h.mono hle
  | pollFailed now =>
    rw [Session.step]
    split_ifs
    · exact (sound_abortConnection h now).mono hle
    · exact h.mono hle
  | publish p e => exact sound_publish h hlegal.1 hlegal.2 hclear hle3 hcut e
  | enqueue p store => exact sound_enqueue h hlegal.1 hlegal.2 hle3 hcut
  | subscribe topic qos id a w =>
    exact (sound_request h topic (builds_buildMessage h.1.1 _ (by decide) _) (by decide) id a w).mono
      hle3
  | unsubscribe topic id a w =>
    exact (sound_request h topic (builds_buildMessage h.1.1 _ (by decide) _) (by decide) id a w).mono
      hle3
  | disconnect => exact h.mono hle
  | reconnect =>
    rw [Session.step]
    split_ifs <;> exact h.mono hle
  | start =>
    rw [Session.step]
    unfold Session.start
    split_ifs <;> exact h.mono hle
  | stop w => exact (sound_stop h w).mono hle3

theorem sound_init (config : Config) (now : Int) :
    (Session.init config now).Sound clear config.outBufferLength d :=
  ⟨⟨rfl, (show (0 - 0 : UInt32).toNat ≤ 0 by decide).trans (Nat.zero_le d), rfl⟩,
    fun _ h => absurd h List.not_mem_nil, fun _ => ⟨fun _ h => absurd h (by simp [wire, Session.init]),
      fun es hes bytes hbytes => by
        obtain rfl := List.suffix_nil.mp hes
        exact absurd hbytes (by simp [wire])⟩⟩

theorem explained_watched {log : List Event} (h : Explained Untorn log) :
    Explained (Watched True) log := by
  induction log with
  | nil => trivial
  | cons e es ih => exact ⟨⟨trivial, h.1⟩, ih h.2⟩

theorem sound_run (config : Config) (now : Int) {inputs : List Input}
    (hlegal : ∀ i ∈ inputs, i.Legal (config.outBufferLength - mqttMaxFixedHeaderSize))
    (hclear : AllSteps (silent Session.step) (fun s i => i.Clear s) (.init config now) inputs) :
    (config.run now inputs).Sound True config.outBufferLength (2 ^ 32) := by
  refine run_inv (C := fun s i =>
    i.Legal (config.outBufferLength - mqttMaxFixedHeaderSize) ∧ i.Clear s)
    (fun s i hs hi => ?_) (sound_init config now) ((AllSteps.of_forall_mem hlegal _).and hclear)
  have hroom : config.outBufferLength - mqttMaxFixedHeaderSize = s.conn.room :=
    congrArg (· - mqttMaxFixedHeaderSize) hs.1.2.2.symm
  obtain ⟨hlegal, hclear⟩ := hi
  rw [hroom] at hlegal
  -- the offset has 32 bits: nothing is known of it
  have hstep := sound_step hs hlegal (fun _ => hclear) (2 ^ 32 + 6) le_rfl fun _ => by omega
  exact ⟨⟨hstep.1.1, (UInt32.toNat_lt _).le, hstep.1.2.2⟩, hstep.2⟩

/-- Between two steps the connection has whole packets, and within one the start of them. -/
theorem Session.Sound.framed (h : s.Sound True cap d) (huntorn : Explained Untorn s.log) :
    (∀ bytes, wire s.log = some bytes → Framed bytes)
      ∧ ∀ es, es <:+ s.log → ∀ bytes, wire es = some bytes → ∃ rest, Framed (bytes ++ rest) := by
  obtain ⟨hwhole, hstart⟩ := h.2.2 (explained_watched huntorn)
  refine ⟨fun bytes hbytes => ?_, hstart⟩
  have hframed := hwhole bytes hbytes
  rwa [List.append_nil] at hframed

/-- Without a message that is cut, the offset sinks by six a step at most. Induction on the inputs. -/
theorem clear_of_fits {inputs : List Input} (h : s.Sound clear cap d)
    (hlegal : ∀ i ∈ inputs, i.Legal (cap - mqttMaxFixedHeaderSize))
    (hfits : ∀ i ∈ inputs, ¬ i.Cuts (cap - mqttMaxFixedHeaderSize))
    (hmany : d + 6 * inputs.length < 2 ^ 29) :
    AllSteps (silent Session.step) (fun s i => i.Clear s) s inputs := by
  induction inputs generalizing s d with
  | nil => trivial
  | cons i inputs ih =>
    rw [List.length_cons] at hmany
    obtain ⟨hlegal, hlegals⟩ := List.forall_mem_cons.mp hlegal
    obtain ⟨hfits, hrest⟩ := List.forall_mem_cons.mp hfits
    have hclear : i.Clear s := by
      have hdrift : s.conn.drift < 2 ^ 29 := by
        have := h.1.2.1
        omega
      cases i with
      | publish p e => exact fun _ => hdrift
      | connect _ | round _ | wait _ | pollFailed _ | enqueue _ _ | subscribe _ _ _ _ _
      | unsubscribe _ _ _ _ | disconnect | reconnect | start | stop _ => trivial
    rw [← h.1.2.2] at hlegal hfits
    have hstep := sound_step h hlegal (fun _ => hclear) _ le_rfl fun hcuts => absurd hcuts hfits
    exact ⟨hclear, ih hstep hlegals hrest (by omega)⟩

/-- The same for a client whose messages all fit the buffer, up to 2 ^ 26 inputs. -/
theorem run_framed_of_fits (config : Config) (now : Int) {inputs : List Input}
    (hlegal : ∀ i ∈ inputs, i.Legal (config.outBufferLength - mqttMaxFixedHeaderSize))
    (hfits : ∀ i ∈ inputs, ¬ i.Cuts (config.outBufferLength - mqttMaxFixedHeaderSize))
    (hmany : inputs.length ≤ 2 ^ 26)
    (huntorn : Explained Untorn (config.run now inputs).log) :
    ∀ bytes, wire (config.run now inputs).log = some bytes → Framed bytes :=
  have hinit : (Session.init config now).Sound True config.outBufferLength 0 := sound_init config now
  ((sound_run config now hlegal (clear_of_fits hinit hlegal hfits (by omega))).framed huntorn).1

end ControlFan.Mqtt
