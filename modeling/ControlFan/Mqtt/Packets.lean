import ControlFan.Mqtt.Encode

/-!
# Mqtt — what the builders give

Between two messages a connection has none that is only begun: `fragmented_msg_total_length` is
zero. From such a connection every builder gives a whole packet or none, and `mqtt_msg_publish`
may give the start of one.

* **`Builds`** — what a builder leaves;
* **`mqttMsgPublish_spec`** — a PUBLISH that does not fit is the start of a packet, and the loop
  that sends it finds the rest.
-/

namespace ControlFan.Mqtt

/-! ## Whole packets -/

def IsPacket (type : Nat) (bytes : List UInt8) : Prop :=
  ∃ dup < 2, ∃ qos < 3, ∃ retain < 2, ∃ body : List UInt8,
    body.length ≤ maxRemaining ∧ bytes = packet type dup qos retain body

theorem IsPacket.ne_nil {type : Nat} {bytes : List UInt8} (h : IsPacket type bytes) : bytes ≠ [] := by
  obtain ⟨dup, -, qos, -, retain, -, body, -, rfl⟩ := h
  exact List.cons_ne_nil _ _

theorem IsPacket.mqttGetType {type : Nat} {bytes : List UInt8} (h : IsPacket type bytes)
    (htype : type < 16) : mqttGetType bytes = type := by
  obtain ⟨dup, hdup, qos, hqos, retain, hretain, body, -, rfl⟩ := h
  exact (typeByte_fields type htype dup hdup qos (by omega) retain hretain).1

theorem IsPacket.length_le {type : Nat} {bytes : List UInt8} (h : IsPacket type bytes) :
    bytes.length ≤ maxRemaining + 5 := by
  obtain ⟨dup, -, qos, -, retain, -, body, hbody, rfl⟩ := h
  have hlens : (encodedLens 5 body.length).length ≤ 4 :=
    length_encodedLens_le (by decide) (by
      unfold maxRemaining at hbody
      omega)
  unfold packet
  rw [List.length_append, List.length_cons]
  omega

theorem typeByte_or_dup : ∀ type < 16, ∀ dup < 2, ∀ qos < 4, ∀ retain < 2,
    typeByte type dup qos retain ||| 0x08 = typeByte type 1 qos retain := by decide +kernel

theorem IsPacket.setDup {type : Nat} {bytes : List UInt8} (h : IsPacket type bytes)
    (htype : type < 16) : IsPacket type (mqttSetDup bytes) := by
  obtain ⟨dup, hdup, qos, hqos, retain, hretain, body, hbody, rfl⟩ := h
  refine ⟨1, by decide, qos, hqos, retain, hretain, body, hbody, ?_⟩
  show (typeByte type dup qos retain ||| 0x08) :: _ = _
  rw [typeByte_or_dup type htype dup hdup qos (by omega) retain hretain]
  rfl

/-! ## Builders -/

/-- How far the fragment's offset has sunk below zero: no builder but `mqtt_msg_publish` sets it, and
every `fini_message` lowers it. -/
def Connection.drift (c : Connection) : Nat := (0 - c.message.fragmentedMsgDataOffset).toNat

/-- What a builder makes of a connection with no message that is only begun. -/
structure Builds (type : Nat) (c c' : Connection) : Prop where
  bufferLength : c'.bufferLength = c.bufferLength
  whole : c'.message.fragmentedMsgTotalLength = 0
  drift : c'.drift ≤ c.drift + 3
  data : c'.message.data = [] ∨ IsPacket type c'.message.data

theorem drift_sub (offset : UInt32) {n : Nat} (hn : n < 2 ^ 32) :
    (0 - (offset - UInt32.ofNat n)).toNat ≤ (0 - offset).toNat + n := by
  have hsum : 0 - (offset - UInt32.ofNat n) = (0 - offset) + UInt32.ofNat n := by
    rw [UInt32.sub_eq_add_neg, UInt32.neg_sub]
    rw [UInt32.sub_eq_add_neg 0 offset, UInt32.zero_add, UInt32.zero_add,
      UInt32.sub_eq_add_neg, UInt32.add_comm]
  rw [hsum, UInt32.toNat_add, UInt32.toNat_ofNat_of_lt' hn]
  exact Nat.mod_le _ _

theorem builds_fail {type : Nat} {c : Connection} (hwhole : c.message.fragmentedMsgTotalLength = 0) :
    Builds type c (failMessage c) :=
  ⟨rfl, hwhole, Nat.le_add_right _ 3, Or.inl rfl⟩

theorem typeByte_mod (type dup qos retain : Nat) :
    typeByte type dup qos retain = typeByte type dup qos (retain % 2) := by
  unfold typeByte
  rw [Nat.mod_mod]

theorem builds_finiMessage {c : Connection} (hwhole : c.message.fragmentedMsgTotalLength = 0)
    (type : Nat) {qos : Nat} (hqos : qos < 3) (retain : Nat) (body : List UInt8) :
    Builds type c (finiMessage c type 0 qos retain body) := by
  rcases finiMessage_spec c type 0 qos retain body (if_neg (not_not.mpr hwhole)).symm with ⟨-, heq⟩ | ⟨hle, n, hn, heq⟩
  · rw [heq]
    exact builds_fail hwhole
  · rw [heq]
    refine ⟨rfl, hwhole, ?_, Or.inr ⟨0, by decide, qos, hqos, retain % 2, Nat.mod_lt _ (by decide),
      body, hle, ?_⟩⟩
    · exact (drift_sub _ (by omega)).trans (Nat.add_le_add_left (by
        have : 0 < (encodedLens 5 body.length).length := by
          rw [encodedLens]
          split_ifs <;> simp
        omega) _)
    · show typeByte type 0 qos retain :: _ = _
      rw [typeByte_mod]
      rfl

theorem length_of_finiMessage {c : Connection} {type dup qos retain : Nat} {body : List UInt8}
    (h : (finiMessage c type dup qos retain body).message.data ≠ []) :
    body.length ≤ (finiMessage c type dup qos retain body).message.data.length := by
  rcases finiMessage_spec c type dup qos retain body rfl with ⟨-, heq⟩ | ⟨-, n, -, heq⟩
  · rw [heq] at h
    exact absurd rfl h
  · rw [heq]
    exact (List.suffix_append _ body).length_le

theorem builds_buildMessage {c : Connection} (hwhole : c.message.fragmentedMsgTotalLength = 0)
    (type : Nat) {qos : Nat} (hqos : qos < 3) (body : Option (List UInt8)) :
    Builds type c (buildMessage c type qos body) := by
  cases body with
  | none => exact builds_fail hwhole
  | some body => exact builds_finiMessage hwhole type hqos 0 body

/-- An acknowledgement always fits. -/
theorem mqttMsgAck_ne_nil {c : Connection} (hwhole : c.message.fragmentedMsgTotalLength = 0)
    (hroom : 7 ≤ c.bufferLength) (type qos : Nat) (messageId : UInt16) (drawn : MsgId) :
    (mqttMsgAck type qos c messageId drawn).message.data ≠ [] := by
  have hfits : ∃ body, appendMessageId c (assignedId messageId drawn) [] = some body
      ∧ body.length = 2 := by
    unfold appendMessageId Connection.room mqttMaxFixedHeaderSize
    exact ⟨_, if_neg (by rw [List.length_nil]; omega), rfl⟩
  obtain ⟨body, hbody, hlength⟩ := hfits
  unfold mqttMsgAck
  rw [hbody]
  rcases finiMessage_spec c type 0 qos 0 body (if_neg (not_not.mpr hwhole)).symm with
    ⟨hlong, -⟩ | ⟨-, n, -, heq⟩
  · rw [hlength] at hlong
    exact absurd hlong (by decide)
  · show (finiMessage _ _ _ _ _ _).message.data ≠ []
    rw [heq]
    exact List.cons_ne_nil _ _

/-! ## A PUBLISH -/

/-- The remaining length of the PUBLISH. -/
def publishLength (topic : List UInt8) (data : Payload) (qos : Nat) : Nat :=
  2 + topic.length + (if 0 < qos then 2 else 0) + data.data.length

theorem length_appendString {c : Connection} {string body body' : List UInt8}
    (h : appendString c string body = some body') :
    body'.length = body.length + string.length + 2 ∧ body'.length ≤ c.room := by
  unfold appendString at h
  split_ifs at h with hfull
  obtain rfl := Option.some.inj h
  simp only [List.length_append, List.length_cons, List.length_nil]
  omega

theorem length_appendMessageId {c : Connection} {id : UInt16} {body body' : List UInt8}
    (h : appendMessageId c id body = some body') :
    body'.length = body.length + 2 ∧ body'.length ≤ c.room := by
  unfold appendMessageId at h
  split_ifs at h with hfull
  obtain rfl := Option.some.inj h
  have hlen (b b' : UInt8) : (body ++ [b, b']).length = body.length + 2 := List.length_append
  rw [hlen]
  omega

theorem length_publishHeader {c : Connection} {topic : List UInt8} {data : Payload} {qos : Nat}
    {id : MsgId} {body : List UInt8} (h : publishHeader c topic data qos id = some body) :
    body.length + data.data.length = publishLength topic data qos ∧ body.length ≤ c.room := by
  unfold publishHeader at h
  by_cases htopic : topic = []
  · rw [htopic] at h
    exact absurd h (by simp)
  · rw [if_neg htopic] at h
    obtain ⟨start, hstart, h⟩ := Option.bind_eq_some_iff.mp h
    obtain ⟨hlen, hroom⟩ := length_appendString hstart
    rw [List.length_nil] at hlen
    have hid : (if 0 < qos then appendMessageId c id start else some start) = some body := by
      rcases data with (_ | n) | bs
      · exact h
      · exact absurd h (by simp)
      · exact h
    unfold publishLength
    split_ifs at hid ⊢ with hqos
    · obtain ⟨hlen', hroom'⟩ := length_appendMessageId hid
      omega
    · obtain rfl := Option.some.inj hid
      omega

/-- The message is the start of a packet: the rest of the payload comes behind its first `k`
bytes, which is what the client makes of the offset. -/
structure Begins (c c' : Connection) (payload : List UInt8) (k : Nat) : Prop where
  bufferLength : c'.bufferLength = c.bufferLength
  begun : c'.message.fragmentedMsgTotalLength ≠ 0
  offset : (UInt32.ofNat c'.message.data.length - c'.message.fragmentedMsgDataOffset).toNat = k
  small : k < 2 ^ 31
  data : IsPacket mqttMsgTypePublish (c'.message.data ++ payload.drop k)
  ne_nil : c'.message.data ≠ []

theorem ofNat_add_sub (m n : Nat) : UInt32.ofNat (m + n) - UInt32.ofNat n = UInt32.ofNat m := by
  rw [UInt32.ofNat_add, UInt32.add_sub_cancel]

theorem begins_finiMessage (c : Connection) {body payload : List UInt8}
    (hroom : body.length ≤ c.room) (hcut : c.room < body.length + payload.length)
    (hle : body.length + payload.length ≤ maxRemaining) {qos : Nat} (hqos : qos < 3) (retain : Nat) :
    Begins c
      (finiMessage
        { c with
          message :=
            { c.message with
              fragmentedMsgDataOffset := UInt32.ofNat (mqttMaxFixedHeaderSize + body.length)
              fragmentedMsgTotalLength :=
                payload.length + (mqttMaxFixedHeaderSize + body.length) } }
        mqttMsgTypePublish 0 qos retain (body ++ payload.take (c.room - body.length)))
      payload (c.room - body.length) := by
  have hmax : maxRemaining < 2 ^ 31 := by decide
  have htake : (payload.take (c.room - body.length)).length = c.room - body.length :=
    List.length_take_of_le (by omega)
  rcases finiMessage_spec
    { c with
      message :=
        { c.message with
          fragmentedMsgDataOffset := UInt32.ofNat (mqttMaxFixedHeaderSize + body.length)
          fragmentedMsgTotalLength := payload.length + (mqttMaxFixedHeaderSize + body.length) } }
    mqttMsgTypePublish 0 qos retain (body ++ payload.take (c.room - body.length))
    (show (body ++ payload).length = _ by
      rw [List.length_append]
      dsimp only
      rw [if_pos (by unfold mqttMaxFixedHeaderSize; omega)]
      omega) with ⟨hlong, -⟩ | ⟨-, n, hn, heq⟩
  · rw [List.length_append] at hlong
    exact absurd hle (Nat.not_le.mpr hlong)
  · rw [heq]
    refine ⟨rfl, ?_, ?_, by omega, ?_, List.cons_ne_nil _ _⟩
    · show payload.length + (mqttMaxFixedHeaderSize + body.length) ≠ 0
      unfold mqttMaxFixedHeaderSize
      omega
    · -- the offset is lowered by as much as the header is shorter than its room
      have hmemory : mqttMaxFixedHeaderSize + body.length
          = (encodedLens 5 (body ++ payload).length).length + 1 + body.length + n := by
        unfold mqttMaxFixedHeaderSize
        omega
      have hbuffer (header : UInt8) (lens : List UInt8) :
          (header :: lens ++ (body ++ payload.take (c.room - body.length))).length
            = c.room - body.length + (lens.length + 1 + body.length) := by
        rw [List.length_append, List.length_append, List.length_cons, htake]
        omega
      dsimp only
      rw [hmemory, hbuffer, ofNat_add_sub, ofNat_add_sub, UInt32.toNat_ofNat_of_lt' (by
        show _ < 2 ^ 32
        omega)]
    · refine ⟨0, by decide, qos, hqos, retain % 2, Nat.mod_lt _ (by decide), body ++ payload, ?_, ?_⟩
      · rw [List.length_append]
        exact hle
      · unfold packet
        rw [← typeByte_mod, List.append_assoc, List.append_assoc, List.take_append_drop]

theorem mqttMsgPublish_spec {c : Connection} (hwhole : c.message.fragmentedMsgTotalLength = 0)
    (topic : List UInt8) (data : Payload) {qos : Nat} (hqos : qos < 3) (retain : Nat) (id : MsgId)
    (hlength : publishLength topic data qos ≤ maxRemaining) :
    (Builds mqttMsgTypePublish c (mqttMsgPublish c topic data qos retain id).1
        ∧ ((mqttMsgPublish c topic data qos retain id).1.message.data ≠ [] →
          publishLength topic data qos ≤ c.room
            ∧ data.data.length ≤ (mqttMsgPublish c topic data qos retain id).1.message.data.length))
      ∨ (c.room < publishLength topic data qos
        ∧ ∃ k, Begins c (mqttMsgPublish c topic data qos retain id).1 data.data k) := by
  unfold mqttMsgPublish
  dsimp only
  cases hheader : publishHeader c topic data qos id with
  | none => exact Or.inl ⟨builds_fail hwhole, fun h => absurd rfl h⟩
  | some body =>
    obtain ⟨hlen, hroom⟩ := length_publishHeader hheader
    dsimp only
    by_cases hcut : body.length + data.data.length > c.room
    · rw [if_pos hcut]
      exact Or.inr ⟨by omega, _, begins_finiMessage c hroom hcut (by omega) hqos retain⟩
    · rw [if_neg hcut]
      left
      obtain ⟨hbuffer, hend, hdrift, hdata⟩ := builds_finiMessage
        (c := { c with message := { c.message with fragmentedMsgTotalLength := 0 } }) rfl
        mqttMsgTypePublish hqos retain (body ++ data.data)
      refine ⟨⟨hbuffer, hend, hdrift, hdata⟩, fun hbuilt => ⟨by omega, ?_⟩⟩
      have hlong := length_of_finiMessage hbuilt
      rw [List.length_append] at hlong
      exact (Nat.le_add_left _ _).trans hlong

end ControlFan.Mqtt
