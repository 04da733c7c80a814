import ControlFan.Lib.CString

/-!
# Mqtt — reading a received message (`esp-mqtt/lib/mqtt_msg.c`)

The accessors `mqtt_client.c` uses on its receive buffer. A buffer is the list of its
bytes; a `char *` into it that an accessor returns is the offset it points to, `none` for
`NULL`. Every accessor opens with the same loop over the "remaining length" bytes, which
is `remainingLength` here.
-/

namespace ControlFan.Mqtt

open CString

def mqttMsgTypeConnack : Nat := 2

def mqttMsgTypePublish : Nat := 3

def mqttConnectionAccepted : UInt8 := 0

def mqttGetType (buffer : List UInt8) : Nat := ((deref buffer &&& 0xf0) >>> 4).toNat

def mqttGetDup (buffer : List UInt8) : Nat := ((deref buffer &&& 0x08) >>> 3).toNat

def mqttGetQos (buffer : List UInt8) : Nat := ((deref buffer &&& 0x06) >>> 1).toNat

def mqttGetConnectReturnCode (buffer : List UInt8) : UInt8 := buffer.getD 3 0

/-- `mqtt_has_valid_msg_hdr`: the flag bits each message type allows. -/
def mqttHasValidMsgHdr (buffer : List UInt8) : Bool :=
  match mqttGetType buffer with
  | 1 | 2 | 4 | 5 | 7 | 9 | 11 | 12 | 13 | 14 => deref buffer &&& 0x0f == 0
  | 6 | 8 | 10 => deref buffer &&& 0x0f == 0x02
  | 3 => mqttGetQos buffer < 3 && (0 < mqttGetQos buffer || mqttGetDup buffer == 0)
  | _ => false

/-- The loop over the remaining-length bytes: from index `i` on, seven bits a byte, up to
and including the first byte without the continuation bit. Gives the index behind that
byte and the accumulated length. -/
def remainingLength : List UInt8 → Nat → Nat → Nat × Nat
  | [], i, totlen => (i, totlen)
  | b :: bs, i, totlen =>
    if b &&& 0x80 = 0 then (i + 1, totlen + (b &&& 0x7f).toNat * 2 ^ (7 * (i - 1)))
    else remainingLength bs (i + 1) (totlen + (b &&& 0x7f).toNat * 2 ^ (7 * (i - 1)))

def toInt32 (n : Nat) : Int := Int.bmod n (2 ^ 32)

/-- `mqtt_get_total_length`: the length of the whole message and of its fixed header. -/
def mqttGetTotalLength (buffer : List UInt8) (length : Nat) : Nat × Nat :=
  let (i, totlen) := remainingLength ((buffer.take length).drop 1) 1 0
  ((totlen + i) % 2 ^ 32, i)

def topicLenAt (buffer : List UInt8) (i : Nat) : Nat :=
  (buffer.getD i 0).toNat * 256 + (buffer.getD (i + 1) 0).toNat

/-- `mqtt_get_publish_topic`: where the topic starts and how long it is. -/
def mqttGetPublishTopic (buffer : List UInt8) (length : Nat) : Option (Nat × Nat) :=
  let (i, _) := remainingLength ((buffer.take length).drop 1) 1 0
  if i + 2 ≥ length then none
  else
    let topiclen := topicLenAt buffer i
    if i + 2 + topiclen > length then none
    else some (i + 2, topiclen)

/-- `mqtt_get_publish_data`: where the payload starts, and how much of it the buffer holds. -/
def mqttGetPublishData (buffer : List UInt8) (blength : Nat) : Option Nat × Nat :=
  let (i, remaining) := remainingLength ((buffer.take blength).drop 1) 1 0
  let totlen := toInt32 (remaining + i)
  if i + 2 ≥ blength then (none, 0)
  else
    let topiclen := topicLenAt buffer i
    if i + 2 + topiclen ≥ blength then (none, 0)
    else
      let i := i + 2 + topiclen
      if 0 < mqttGetQos buffer ∧ i + 2 ≥ blength then (none, 0)
      else
        let i := if 0 < mqttGetQos buffer then i + 2 else i
        if totlen < i then (none, 0)
        else (some i, if totlen ≤ blength then totlen.toNat - i else blength - i)

/-- `mqtt_get_id`, `0` where the message has none. Outside of a PUBLISH the id is looked for
behind a remaining length of one byte. -/
def mqttGetId (buffer : List UInt8) (length : Nat) : UInt16 :=
  if length < 1 then 0
  else
    match mqttGetType buffer with
    | 3 =>
      let (i, _) := remainingLength ((buffer.take length).drop 1) 1 0
      if i + 2 ≥ length then 0
      else
        let i := i + 2 + topicLenAt buffer i
        if i > length then 0
        else if 0 < mqttGetQos buffer ∧ i + 2 ≤ length then UInt16.ofNat (topicLenAt buffer i)
        else 0
    | 4 | 5 | 6 | 7 | 8 | 9 | 10 | 11 =>
      if length ≥ 4 ∧ buffer.getD 1 0 &&& 0x80 = 0 then UInt16.ofNat (topicLenAt buffer 2) else 0
    | _ => 0

/-- `mqtt_set_dup`. -/
def mqttSetDup (buffer : List UInt8) : List UInt8 := buffer.modifyHead (· ||| 0x08)

end ControlFan.Mqtt
