import Mathlib.Tactic.SplitIfs
import ControlFan.Mqtt.Message

/-!
# Mqtt — building a message (`esp-mqtt/lib/mqtt_msg.c`)

Every builder of `mqtt_msg.c` appends to the connection's buffer behind five bytes that are
kept free for the fixed header, and `fini_message` writes the header right in front of what
was appended. What was appended is a `List UInt8` here, `none` once something did not fit.

* **`finiMessage`** — the header: type and flags, and the remaining length, seven bits a byte;
* **`mqttMsgPublish`** — the one builder that may leave a message incomplete: a payload that
  does not fit is cut at the end of the buffer, and the header counts all of it;
* **`packet`** — a message as the protocol has it; `finiMessage_spec` says when a builder gives one.
-/

namespace ControlFan.Mqtt

/-! ## The connection -/

/-- `mqtt_message_t`, with the bytes that `data` and `length` describe. -/
structure Message where
  data : List UInt8 := []
  fragmentedMsgTotalLength : Nat := 0
  fragmentedMsgDataOffset : UInt32 := 0
  deriving DecidableEq, Repr

def mqttMaxFixedHeaderSize : Nat := 5

/-- `mqtt_connection_t`. The buffer has room for a fixed header. -/
structure Connection where
  bufferLength : Nat
  message : Message := {}
  hroom : mqttMaxFixedHeaderSize ≤ bufferLength
  deriving DecidableEq, Repr

/-- The bytes of the buffer that may stand behind the fixed header. -/
def Connection.room (c : Connection) : Nat := c.bufferLength - mqttMaxFixedHeaderSize

/-- `append_string`, without a check of the 16 bits of the length. -/
def appendString (c : Connection) (string body : List UInt8) : Option (List UInt8) :=
  if body.length + string.length + 2 > c.room then none
  else
    some (body ++ [UInt8.ofNat (string.length / 256), UInt8.ofNat (string.length % 256)] ++ string)

/-- What the loop of `append_message_id` draws. -/
abbrev MsgId := { id : UInt16 // id ≠ 0 }

/-- `append_message_id`: a zero is replaced by an id that is drawn. -/
def assignedId (messageId : UInt16) (drawn : MsgId) : UInt16 :=
  if messageId = 0 then drawn else messageId

def appendMessageId (c : Connection) (messageId : UInt16) (body : List UInt8) :
    Option (List UInt8) :=
  if body.length + 2 > c.room then none
  else some (body ++ [UInt8.ofNat (messageId.toNat / 256), UInt8.ofNat (messageId.toNat % 256)])

def failMessage (c : Connection) : Connection :=
  { c with message := { c.message with data := [] } }

/-- The `do .. while` of `fini_message`. An `int` needs at most five rounds. -/
def encodedLens : (rounds : Nat) → (totalLength : Nat) → List UInt8
  | 0, _ => []
  | rounds + 1, n =>
    if 0 < n / 128 then UInt8.ofNat (n % 128 + 128) :: encodedLens rounds (n / 128)
    else [UInt8.ofNat (n % 128)]

def typeByte (type dup qos retain : Nat) : UInt8 :=
  UInt8.ofNat (type % 16 * 16 + dup % 2 * 8 + qos % 4 * 2 + retain % 2)

/-- `fini_message`. The length is that of the whole message when only a part of it is in the
buffer, and no builder but `mqtt_msg_publish` says that it is not. -/
def finiMessage (c : Connection) (type dup qos retain : Nat) (body : List UInt8) : Connection :=
  let totalLength :=
    if c.message.fragmentedMsgTotalLength ≠ 0 then
      c.message.fragmentedMsgTotalLength - mqttMaxFixedHeaderSize
    else body.length
  let lens := encodedLens 5 totalLength
  if lens.length + 1 > mqttMaxFixedHeaderSize then failMessage c
  else
    { c with
      message :=
        { c.message with
          data := typeByte type dup qos retain :: lens ++ body
          fragmentedMsgDataOffset :=
            c.message.fragmentedMsgDataOffset - UInt32.ofNat (mqttMaxFixedHeaderSize - 1 - lens.length) } }

/-- A builder that appends `body` and calls `fini_message`, or fails on the way. -/
def buildMessage (c : Connection) (type qos : Nat) (body : Option (List UInt8)) : Connection :=
  match body with
  | none => failMessage c
  | some body => finiMessage c type 0 qos 0 body

/-! ## The builders -/

inductive ProtocolVer where
  | v31
  | v311
  deriving DecidableEq, Repr

/-- `mqtt_connect_info_t`. A string that is `NULL` is empty. -/
structure ConnectInfo where
  clientId : List UInt8
  username : List UInt8 := []
  password : List UInt8 := []
  willTopic : List UInt8 := []
  willMessage : List UInt8 := []
  willQos : Nat := 0
  willRetain : Bool := false
  keepalive : Nat
  cleanSession : Bool := true
  protocolVer : ProtocolVer := .v311
  deriving DecidableEq, Repr

def connectFlags (info : ConnectInfo) : Nat :=
  (if info.cleanSession then 2 else 0)
    + (if info.willTopic ≠ [] then
        4 + (if info.willRetain then 32 else 0) + info.willQos % 4 * 8
      else 0)
    + (if info.username ≠ [] then 128 else 0)
    + (if info.password ≠ [] then 64 else 0)

/-- The variable header of a CONNECT: protocol name and version, flags, keep-alive. -/
def connectHeader (info : ConnectInfo) : List UInt8 :=
  let protocol : List UInt8 :=
    match info.protocolVer with
    -- "MQIsdp" and "MQTT"
    | .v31 => [0, 6, 77, 81, 73, 115, 100, 112, 3]
    | .v311 => [0, 4, 77, 81, 84, 84, 4]
  protocol ++
    [UInt8.ofNat (connectFlags info), UInt8.ofNat (info.keepalive / 256),
      UInt8.ofNat (info.keepalive % 256)]

def appendIf (c : Connection) (string body : List UInt8) : Option (List UInt8) :=
  if string = [] then some body else appendString c string body

def connectBody (c : Connection) (info : ConnectInfo) : Option (List UInt8) := do
  let header := connectHeader info
  if header.length > c.room then none
  if info.clientId = [] then none
  let body ← appendString c info.clientId header
  let body ←
    if info.willTopic = [] then some body
    else appendString c info.willTopic body >>= appendString c info.willMessage
  let body ← appendIf c info.username body
  appendIf c info.password body

def mqttMsgConnect (c : Connection) (info : ConnectInfo) : Connection :=
  buildMessage c 1 0 (connectBody c info)

/-- The payload that `mqtt_msg_publish` is given: `data == NULL` with a length, or the bytes. -/
inductive Payload where
  | null (length : Nat)
  | bytes (bs : List UInt8)
  deriving DecidableEq, Repr

def Payload.data : Payload → List UInt8
  | .null _ => []
  | .bytes bs => bs

def mqttMsgTypeSubscribe : Nat := 8

def mqttMsgTypeUnsubscribe : Nat := 10

/-- The variable header of a PUBLISH: topic and, above QoS 0, message id. -/
def publishHeader (c : Connection) (topic : List UInt8) (data : Payload) (qos : Nat) (id : MsgId) :
    Option (List UInt8) := do
  if topic = [] then none
  let body ← appendString c topic []
  if let .null (_ + 1) := data then none
  if 0 < qos then appendMessageId c id body else some body

/-- `mqtt_msg_publish`, with the id it stores. -/
def mqttMsgPublish (c : Connection) (topic : List UInt8) (data : Payload) (qos retain : Nat)
    (id : MsgId) : Connection × UInt16 :=
  let messageId := if 0 < qos then id.val else 0
  match publishHeader c topic data qos id with
  | none => (failMessage c, messageId)
  | some body =>
    let m := c.message
    -- not enough room: the buffer is filled, and the header announces the whole message
    if body.length + data.data.length > c.room then
      let offset := mqttMaxFixedHeaderSize + body.length
      let m :=
        { m with
          fragmentedMsgDataOffset := UInt32.ofNat offset
          fragmentedMsgTotalLength := data.data.length + offset }
      (finiMessage { c with message := m } mqttMsgTypePublish 0 qos retain
          (body ++ data.data.take (c.room - body.length)), messageId)
    else
      let m := { m with fragmentedMsgTotalLength := 0 }
      (finiMessage { c with message := m } mqttMsgTypePublish 0 qos retain (body ++ data.data),
        messageId)

/-- `mqtt_msg_puback`, `_pubrec`, `_pubrel` and `_pubcomp`: an id and nothing else. -/
def mqttMsgAck (type qos : Nat) (c : Connection) (messageId : UInt16) (drawn : MsgId) : Connection :=
  buildMessage c type qos (appendMessageId c (assignedId messageId drawn) [])

def mqttMsgPuback (c : Connection) (messageId : UInt16) (drawn : MsgId) : Connection :=
  mqttMsgAck 4 0 c messageId drawn

def mqttMsgPubrec (c : Connection) (messageId : UInt16) (drawn : MsgId) : Connection :=
  mqttMsgAck 5 0 c messageId drawn

def mqttMsgPubrel (c : Connection) (messageId : UInt16) (drawn : MsgId) : Connection :=
  mqttMsgAck 6 1 c messageId drawn

def mqttMsgPubcomp (c : Connection) (messageId : UInt16) (drawn : MsgId) : Connection :=
  mqttMsgAck 7 0 c messageId drawn

def subscribeBody (c : Connection) (topic : List UInt8) (qos : Nat) (id : MsgId) :
    Option (List UInt8) := do
  if topic = [] then none
  let body ← appendMessageId c id []
  let body ← appendString c topic body
  if body.length + 1 > c.room then none else some (body ++ [UInt8.ofNat qos])

def mqttMsgSubscribe (c : Connection) (topic : List UInt8) (qos : Nat) (id : MsgId) : Connection :=
  buildMessage c mqttMsgTypeSubscribe 1 (subscribeBody c topic qos id)

def unsubscribeBody (c : Connection) (topic : List UInt8) (id : MsgId) : Option (List UInt8) := do
  if topic = [] then none
  let body ← appendMessageId c id []
  appendString c topic body

def mqttMsgUnsubscribe (c : Connection) (topic : List UInt8) (id : MsgId) : Connection :=
  buildMessage c mqttMsgTypeUnsubscribe 1 (unsubscribeBody c topic id)

def mqttMsgPingreq (c : Connection) : Connection := buildMessage c 12 0 (some [])

def mqttMsgDisconnect (c : Connection) : Connection := buildMessage c 14 0 (some [])

/-! ## The remaining length -/

theorem and_low_byte : ∀ k < 128,
    UInt8.ofNat k &&& 0x80 = 0 ∧ (UInt8.ofNat k &&& 0x7f).toNat = k := by decide +kernel

theorem and_continued_byte : ∀ k < 128,
    UInt8.ofNat (k + 128) &&& 0x80 ≠ 0 ∧ (UInt8.ofNat (k + 128) &&& 0x7f).toNat = k := by
  decide +kernel

/-- Five rounds are left early only by a length that four bytes can hold. -/
theorem lt_of_length_encodedLens {rounds n : Nat} (h : (encodedLens rounds n).length < rounds) :
    n < 128 ^ (encodedLens rounds n).length := by
  induction rounds generalizing n with
  | zero => exact absurd h (Nat.not_lt_zero _)
  | succ rounds ih =>
    rw [encodedLens] at h ⊢
    split_ifs at h ⊢ with hmore
    · have hrest := ih (Nat.lt_of_succ_lt_succ h)
      rw [List.length_cons, pow_succ]
      omega
    · show n < 128 ^ 1
      omega

/-- Induction on the rounds: each takes seven bits. -/
theorem length_encodedLens_le {rounds n k : Nat} (hk : 0 < k) (h : n < 128 ^ k) :
    (encodedLens rounds n).length ≤ k := by
  induction rounds generalizing n k with
  | zero => exact Nat.zero_le k
  | succ rounds ih =>
    rw [encodedLens]
    split_ifs with hmore
    · cases k with
      | zero => exact absurd hk (Nat.lt_irrefl 0)
      | succ k =>
        rw [pow_succ] at h
        have hrest : n / 128 < 128 ^ k := by
          rw [Nat.div_lt_iff_lt_mul (by decide)]
          exact h
        have hk' : 0 < k := Nat.pos_of_ne_zero fun hzero => by
          rw [hzero, pow_zero] at hrest
          omega
        exact Nat.succ_le_succ (ih hk' hrest)
    · exact hk

/-- The loop that opens every accessor undoes that of `fini_message`. Induction on the rounds;
`i` counts the bytes that were read before. -/
theorem remainingLength_encodedLens {rounds n : Nat} (h : n < 128 ^ (rounds + 1)) (i totlen : Nat)
    (rest : List UInt8) :
    remainingLength (encodedLens (rounds + 1) n ++ rest) (i + 1) totlen
      = (i + 1 + (encodedLens (rounds + 1) n).length, totlen + n * 2 ^ (7 * i)) := by
  induction rounds generalizing n i totlen with
  | zero =>
    obtain ⟨hend, hlow⟩ := and_low_byte (n % 128) (by omega)
    rw [encodedLens, if_neg (by omega)]
    show remainingLength (UInt8.ofNat (n % 128) :: rest) (i + 1) totlen = _
    rw [remainingLength, if_pos hend, hlow, Nat.mod_eq_of_lt (by omega)]
    rfl
  | succ rounds ih =>
    rw [encodedLens]
    split_ifs with hmore
    · obtain ⟨hgo, hlow⟩ := and_continued_byte (n % 128) (by omega)
      have hrest : n / 128 < 128 ^ (rounds + 1) := by
        rw [Nat.div_lt_iff_lt_mul (by omega), ← pow_succ]
        exact h
      have hpow : 2 ^ (7 * (i + 1)) = 128 * 2 ^ (7 * i) := by
        rw [Nat.mul_succ, pow_add, Nat.mul_comm]
        rfl
      have hsum : n % 128 * 2 ^ (7 * i) + n / 128 * (128 * 2 ^ (7 * i)) = n * 2 ^ (7 * i) := by
        rw [← Nat.mul_assoc, ← Nat.add_mul, Nat.mul_comm (n / 128), Nat.mod_add_div]
      rw [List.cons_append, remainingLength, if_neg hgo, ih hrest, hlow, Nat.add_sub_cancel, hpow,
        Nat.add_assoc totlen, hsum, List.length_cons]
      congr 1
      omega
    · obtain ⟨hend, hlow⟩ := and_low_byte (n % 128) (by omega)
      show remainingLength (UInt8.ofNat (n % 128) :: rest) (i + 1) totlen = _
      rw [remainingLength, if_pos hend, hlow, Nat.mod_eq_of_lt (by omega)]
      rfl

/-! ## Packets -/

/-- A control packet of the protocol: a fixed header that counts the body, and the body. -/
def packet (type dup qos retain : Nat) (body : List UInt8) : List UInt8 :=
  typeByte type dup qos retain :: encodedLens 5 body.length ++ body

/-- The longest remaining length that has four bytes. -/
def maxRemaining : Nat := 128 ^ 4 - 1

/-- `fini_message` fails on a length that has no four bytes, and puts the header in front of the
message otherwise. -/
theorem finiMessage_spec (c : Connection) (type dup qos retain : Nat) (body : List UInt8) {total : Nat}
    (htotal : total = if c.message.fragmentedMsgTotalLength ≠ 0 then
      c.message.fragmentedMsgTotalLength - mqttMaxFixedHeaderSize else body.length) :
    (maxRemaining < total ∧ finiMessage c type dup qos retain body = failMessage c)
      ∨ (total ≤ maxRemaining ∧ ∃ n, (encodedLens 5 total).length + n = 4
        ∧ finiMessage c type dup qos retain body
          = { c with
              message :=
                { c.message with
                  data := typeByte type dup qos retain :: encodedLens 5 total ++ body
                  fragmentedMsgDataOffset :=
                    c.message.fragmentedMsgDataOffset - UInt32.ofNat n } }) := by
  unfold finiMessage
  dsimp only
  rw [← htotal]
  split_ifs with hlong
  · refine Or.inl ⟨Nat.lt_of_not_le fun hle => ?_, rfl⟩
    have : (encodedLens 5 total).length ≤ 4 := length_encodedLens_le (by decide) (by
      unfold maxRemaining at hle
      omega)
    unfold mqttMaxFixedHeaderSize at hlong
    omega
  · have hlen : (encodedLens 5 total).length ≤ 4 := by
      unfold mqttMaxFixedHeaderSize at hlong
      omega
    have hlt := lt_of_length_encodedLens (Nat.lt_succ_of_le hlen)
    have hpow : 128 ^ (encodedLens 5 total).length ≤ 128 ^ 4 :=
      Nat.pow_le_pow_right (by decide) hlen
    refine Or.inr ⟨Nat.le_sub_one_of_lt (hlt.trans_le hpow), 4 - (encodedLens 5 total).length,
      Nat.add_sub_of_le hlen, rfl⟩

/-- A message that was built starts with its type, also when the rest is cut off. -/
theorem finiMessage_head (c : Connection) (type dup qos retain : Nat) (body : List UInt8) :
    (finiMessage c type dup qos retain body).message.data = []
      ∨ ∃ rest, (finiMessage c type dup qos retain body).message.data
        = typeByte type dup qos retain :: rest := by
  unfold finiMessage
  dsimp only
  split_ifs
  · exact Or.inl rfl
  · exact Or.inr ⟨_, rfl⟩
  · exact Or.inl rfl
  · exact Or.inr ⟨_, rfl⟩

theorem buildMessage_head (c : Connection) (type qos : Nat) (body : Option (List UInt8)) :
    (buildMessage c type qos body).message.data = []
      ∨ ∃ rest, (buildMessage c type qos body).message.data = typeByte type 0 qos 0 :: rest := by
  cases body with
  | none => exact Or.inl rfl
  | some body => exact finiMessage_head c type 0 qos 0 body

/-- Nothing is built of a body that did not fit. -/
theorem body_of_buildMessage {c : Connection} {type qos : Nat} {body : Option (List UInt8)}
    (h : (buildMessage c type qos body).message.data ≠ []) : body ≠ none := by
  rintro rfl
  exact h rfl

theorem typeByte_fields : ∀ type < 16, ∀ dup < 2, ∀ qos < 4, ∀ retain < 2,
    mqttGetType [typeByte type dup qos retain] = type
      ∧ mqttGetDup [typeByte type dup qos retain] = dup
      ∧ mqttGetQos [typeByte type dup qos retain] = qos
      ∧ typeByte type dup qos retain &&& 0x0f = UInt8.ofNat (dup * 8 + qos * 2 + retain) := by
  decide +kernel

theorem mqttGetType_lt (buffer : List UInt8) : mqttGetType buffer < 16 := by
  unfold mqttGetType
  have hbyte := (CString.deref buffer &&& 0xf0).toNat_lt
  rw [UInt8.toNat_shiftRight, Nat.shiftRight_eq_div_pow]
  show _ / 2 ^ 4 < 16
  omega

theorem mqttGetType_buildMessage {c : Connection} {type qos : Nat} (htype : type < 16)
    (hqos : qos < 4) {body : Option (List UInt8)}
    (h : (buildMessage c type qos body).message.data ≠ []) :
    mqttGetType (buildMessage c type qos body).message.data = type := by
  obtain ⟨rest, heq⟩ := (buildMessage_head c type qos body).resolve_left h
  rw [heq]
  exact (typeByte_fields type htype 0 (by decide) qos hqos 0 (by decide)).1

end ControlFan.Mqtt
