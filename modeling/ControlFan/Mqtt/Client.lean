import ControlFan.Lib.CString
import ControlFan.Mqtt.Message

/-!
# Mqtt — the client task's receiving side (`esp-mqtt/mqtt_client.c`)

`mqttMessageReceive` reads one message from the transport into the receive buffer, which
is never cleared: whatever an earlier message left behind the new one stays there.
`deliverPublish` turns a received PUBLISH into data events. The first one carries the
topic; a payload that does not fit the buffer is read on in fragments, each of which is
posted with `topic = NULL` and `topic_len = 0`. `espMqttTask` is one round of the client
task: a connection attempt, or one `mqtt_process_receive` on the open connection.

The network is the environment. Every `esp_transport_read` call takes the next
`TransportRead` of a list: bytes (never more than asked for, none for a timeout) or a
negative error.
-/

namespace ControlFan.Mqtt

open CString

/-- The answer to one `esp_transport_read` call: some bytes, or the result `-(code + 1)`. -/
inductive TransportRead where
  | data (bytes : List UInt8)
  | error (code : Nat)
  deriving DecidableEq, Repr

/-- The part of `esp_mqtt_client` the receiving side works on. `inBuffer` is the memory
from `in_buffer` on; it reaches at least to the end of the buffer. -/
structure Client where
  inBuffer : List UInt8
  inBufferLength : Nat
  inBufferReadLen : Nat := 0
  messageLength : Nat := 0
  -- `state == MQTT_STATE_CONNECTED`
  connected : Bool := true
  hfits : inBufferLength ≤ inBuffer.length
  deriving DecidableEq, Repr

/-- The fields of `esp_mqtt_event_t` a data event hands to its handler. A pointer is the
memory from it on, `none` for `NULL`. -/
structure MqttEvent where
  data : Option (List UInt8)
  dataLen : Int
  topic : Option (List UInt8)
  topicLen : Nat
  deriving DecidableEq, Repr

theorem length_le_length_overwrite (mem bs : List UInt8) (off : Nat) :
    mem.length ≤ (mem.take off ++ bs ++ mem.drop (off + bs.length)).length := by
  simp only [List.length_append, List.length_take, List.length_drop]
  omega

def Client.store (c : Client) (off : Nat) (bs : List UInt8) : Client :=
  { c with
    inBuffer := c.inBuffer.take off ++ bs ++ c.inBuffer.drop (off + bs.length)
    hfits := c.hfits.trans (length_le_length_overwrite c.inBuffer bs off) }

/-! ## Receiving a message -/

/-- Code that works on the client and the transport and may `return` early with an `int`. -/
abbrev Receive := ExceptT Int (StateM (Client × List TransportRead))

def client : Receive Client := return (← get).1

def update (f : Client → Client) : Receive Unit := modify fun (c, t) => (f c, t)

/-- `esp_transport_read(t, buf, len, ..)` of `mqtt_message_receive`, where `buf` is always
`in_buffer + in_buffer_read_len`, with the two exits that follow each such call: an error
goes to `err` and returns `-1`, no data returns `0`. -/
def transportRead (len : Nat) : Receive (List UInt8) := do
  let (c, t) ← get
  match t with
  | [] => throw 0
  | .error _ :: t =>
    set (c, t)
    throw (-1)
  | .data bytes :: t =>
    let bs := bytes.take len
    set (c.store c.inBufferReadLen bs, t)
    if bs.isEmpty then throw 0
    return bs

def advance (n : Nat) : Receive Unit :=
  update fun c => { c with inBufferReadLen := c.inBufferReadLen + n }

/-- `(in_buffer_read_len < 6) && (*(buf - 1) & 0x80)`: a remaining-length byte follows. -/
def moreLengthBytes (c : Client) : Bool :=
  c.inBufferReadLen < 6 && c.inBuffer.getD (c.inBufferReadLen - 1) 0 &&& 0x80 != 0

/-- The `do .. while` over the remaining-length bytes. Each round lengthens
`in_buffer_read_len`, which the loop condition keeps below six: `rounds` counts down from
there. -/
def readLengthBytes : (rounds : Nat) → Receive Unit
  | 0 => return
  | rounds + 1 => do
    let _ ← transportRead 1
    advance 1
    if moreLengthBytes (← client) then readLengthBytes rounds

/-- `mqtt_message_receive`: returns normally for its `return 1`, throws its `0` (nothing or
not everything there yet) and its `-1`. -/
def mqttMessageReceive : Receive Unit := do
  update fun c => { c with messageLength := 0 }
  if (← client).inBufferReadLen = 0 then
    let first ← transportRead 1
    if ¬ mqttHasValidMsgHdr first then throw (-1)
    advance 1
  -- a call may find the header begun by an earlier one
  let c ← client
  if c.inBufferReadLen = 1 ∨ moreLengthBytes c then readLengthBytes (6 - c.inBufferReadLen)
  let c ← client
  let (totalLen, fixedHeaderLen) := mqttGetTotalLength c.inBuffer c.inBufferReadLen
  update fun c => { c with messageLength := totalLen }
  let mut toRead := totalLen
  if (c.inBufferLength : Int) < toInt32 totalLen then
    -- too long for the buffer: only a PUBLISH may be, and only its topic has to fit
    if mqttGetType c.inBuffer ≠ mqttMsgTypePublish then throw (-1)
    if c.inBufferReadLen < fixedHeaderLen + 2 then
      let got ← transportRead (c.inBufferReadLen - fixedHeaderLen + 2)
      advance got.length
      if (← client).inBufferReadLen < fixedHeaderLen + 2 then throw 0
    let c ← client
    let headerLen := fixedHeaderLen + topicLenAt c.inBuffer fixedHeaderLen
      + (if 0 < mqttGetQos c.inBuffer then 2 else 0)
    if c.inBufferLength < headerLen then throw (-1)
    toRead := c.inBufferLength
  -- a part that is missing is waited for by the next call
  let readLen := (← client).inBufferReadLen
  if readLen < toRead then
    let got ← transportRead (toRead - readLen)
    advance got.length
    if readLen + got.length < toRead then throw 0

/-! ## Delivering a PUBLISH -/

/-- `deliver_publish` from its second `post_data_event` on: one transport read and one
event a round, until the message is complete or a read gives nothing. `msg_data_len` is a
`size_t`, so a negative read result is not taken for an error there. -/
def deliverFragments (total : Nat) :
    Client → Nat → List TransportRead → Client × List MqttEvent × Bool
  | c, readLen, [] => (c, [], decide (total ≤ readLen))
  | c, readLen, r :: t =>
    if readLen < total then
      let (bs, dataLen) : List UInt8 × Int :=
        match r with
        | .data bytes =>
          let bs := bytes.take (min (total - readLen) c.inBufferLength)
          (bs, bs.length)
        | .error code => ([], Int.negSucc code)
      if dataLen = 0 then (c, [], false)
      else
        -- each fragment is read to the start of the buffer, over the topic of the first event
        let c := c.store 0 bs
        let ev : MqttEvent :=
          { data := some c.inBuffer, dataLen := dataLen, topic := none, topicLen := 0 }
        let (c, evs, ok) := deliverFragments total c ((readLen + dataLen) % 2 ^ 32).toNat t
        (c, ev :: evs, ok)
    else (c, [], true)

/-- `deliver_publish`: the first event, then the fragments; `false` for `ESP_FAIL`. -/
def deliverPublish (c : Client) (t : List TransportRead) : Client × List MqttEvent × Bool :=
  match mqttGetPublishTopic c.inBuffer c.inBufferReadLen with
  | none => (c, [], false)
  | some (topicAt, topicLen) =>
    let (dataAt, dataLen) := mqttGetPublishData c.inBuffer c.inBufferReadLen
    -- no payload in the buffer: `data` stays NULL
    let ev : MqttEvent :=
      { data := if 0 < dataLen then dataAt.map c.inBuffer.drop else none
        dataLen := dataLen
        topic := some (c.inBuffer.drop topicAt)
        topicLen := topicLen }
    let (c, evs, ok) := deliverFragments c.messageLength c c.inBufferReadLen t
    (c, ev :: evs, ok)

/-! ## The client task -/

/-- What one round of the task meets: a connection attempt, with the transport answers each
`mqtt_message_receive` call on it finds; a receive round, with the answers it finds and
whether the acknowledgement (and what else the round sends) goes out; a lost connection. -/
inductive Round where
  | connect (attempts : List (List TransportRead))
  | receive (answers : List TransportRead) (sent : Bool)
  | abort
  deriving DecidableEq, Repr

/-- `mqtt_process_receive`: one message, the data events it posts, `false` for `ESP_FAIL`. -/
def mqttProcessReceive (c : Client) (answers : List TransportRead) (sent : Bool) :
    Client × List MqttEvent × Bool :=
  match mqttMessageReceive.run (c, answers) with
  | (.error ret, (c, _)) => (c, [], decide (0 ≤ ret))
  | (.ok (), (c, t)) =>
    let (c, evs, ok) :=
      if mqttGetType c.inBuffer = mqttMsgTypePublish then deliverPublish c t else (c, [], true)
    -- the buffer itself is not cleared for the next message
    if ok && sent then ({ c with inBufferReadLen := 0 }, evs, true) else (c, evs, false)

/-- The `do .. while` of `esp_mqtt_connect`: receive until there is a message or an error.
Attempts run out when the network timeout does. -/
def receiveConnack : Client → List (List TransportRead) → Client × Bool
  | c, [] => (c, false)
  | c, answers :: attempts =>
    match mqttMessageReceive.run (c, answers) with
    | (.ok (), (c, _)) => (c, true)
    | (.error ret, (c, _)) => if ret = 0 then receiveConnack c attempts else (c, false)

/-- `esp_mqtt_connect`, from its reset of the receive state on. -/
def espMqttConnect (c : Client) (attempts : List (List TransportRead)) : Client :=
  let (c, got) := receiveConnack { c with inBufferReadLen := 0, messageLength := 0 } attempts
  if ¬ got ∨ mqttGetType c.inBuffer ≠ mqttMsgTypeConnack then c
  else
    { c with
      inBufferReadLen := 0
      connected := mqttGetConnectReturnCode c.inBuffer == mqttConnectionAccepted }

def espMqttTask (c : Client) : Round → Client × List MqttEvent
  | .connect attempts => if c.connected then (c, []) else (espMqttConnect c attempts, [])
  | .receive answers sent =>
    if c.connected then
      let (c, evs, ok) := mqttProcessReceive c answers sent
      ({ c with connected := ok }, evs)
    else (c, [])
  | .abort => ({ c with connected := false }, [])

end ControlFan.Mqtt
