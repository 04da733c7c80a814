import ControlFan.Esp
import ControlFan.Lib.Machine
import ControlFan.Mqtt.Client
import ControlFan.Mqtt.Outbox

/-!
# Mqtt — the whole client (`esp-mqtt/mqtt_client.c`)

The client task and the threads that publish and subscribe share one `esp_mqtt_client`. Every
round of the task and every call of the interface holds the client's lock from its start to its
end, so that a run of the client is a list of `Input`s in the order in which they get the lock.
The lock is recursive: a call that the event handler makes runs within the round that has called
the handler, and such calls are left out. The output buffer has at least the five bytes that a fixed
header can take.

* `writeData`, `abortConnection`, `isValidMqttMsg`, `mqttResendQueued` — the parts;
* `processReceive`, `connectRound`, `connectedRound` — the rounds of `esp_mqtt_task`;
* `publish`, `enqueue`, `subscribe`, `unsubscribe`, `stop` — the interface.

What a message is read into and what is posted from it is the `Client` of `Mqtt.Client`. The
network, the clock, the allocator and the random ids are given with each input. A `log` that the
code does not have, the newest entry first, says what was done.
-/

namespace ControlFan.Mqtt

open CString

/-! ## State -/

/-- `mqtt_client_state_t`; nothing sets `MQTT_STATE_ERROR`. -/
inductive MqttState where
  | unknown
  | init
  | connected
  | waitTimeout
  deriving DecidableEq, Repr

/-- The events that say something about the client itself; `MQTT_EVENT_ERROR` is left out. -/
inductive EventId where
  | beforeConnect
  | connected
  | disconnected
  | subscribed
  | unsubscribed
  | published
  deriving DecidableEq, Repr

/-- Why an item leaves the outbox. -/
inductive Leave where
  | acked
  | expired (now : Int)
  | sent
  | confirmed
  deriving DecidableEq, Repr

inductive Event where
  -- the transport is connected, and closed
  | opened
  | closed
  -- one `esp_transport_write`, with its result
  | wrote (bytes : List UInt8) (ret : Int)
  | received (type : Nat) (id : UInt16)
  | queued (item : Item)
  | resent (item : Item)
  | dropped (item : Item) (why : Leave)
  | dispatched (e : EventId)
  | data (e : MqttEvent)
  deriving DecidableEq, Repr

structure Session where
  rx : Client
  conn : Connection
  info : ConnectInfo
  autoReconnect : Bool
  refreshConnectionAfterMs : Nat
  reconnectTimeoutMs : Int
  state : MqttState := .unknown
  run : Bool := false
  -- `DISCONNECT_BIT`
  disconnectBit : Bool := false
  waitForPingResp : Bool := false
  keepaliveTick : Int
  reconnectTick : Int
  refreshConnectionTick : Int
  waitTimeoutMs : Int := 0
  lastRetransmit : Int := 0
  pendingMsgId : UInt16 := 0
  pendingMsgType : Nat := 0
  pendingPublishQos : Nat := 0
  pendingMsgCount : Int := 0
  outbox : Outbox := []
  log : List Event := []
  deriving DecidableEq, Repr

/-- The configuration. The receive buffer holds whatever its allocation found in the memory. -/
structure Config where
  inBuffer : List UInt8
  outBufferLength : Nat
  info : ConnectInfo
  autoReconnect : Bool := true
  refreshConnectionAfterMs : Nat := 0
  reconnectTimeoutMs : Int := 10 * 1000
  hroom : mqttMaxFixedHeaderSize ≤ outBufferLength

/-- `esp_mqtt_client_init`. -/
def Session.init (config : Config) (now : Int) : Session where
  rx :=
    { inBuffer := config.inBuffer
      inBufferLength := config.inBuffer.length
      connected := false
      hfits := le_rfl }
  conn := { bufferLength := config.outBufferLength, hroom := config.hroom }
  info := config.info
  autoReconnect := config.autoReconnect
  refreshConnectionAfterMs := config.refreshConnectionAfterMs
  reconnectTimeoutMs := config.reconnectTimeoutMs
  keepaliveTick := now
  reconnectTick := now
  refreshConnectionTick := now

def Session.emit (s : Session) (e : Event) : Session := { s with log := e :: s.log }

/-- A difference of ticks: the clock is signed, the ticks of the client are not. -/
def elapsed (now tick : Int) : Int := (now - tick) % 2 ^ 64

/-! ## Sending -/

/-- What an `esp_transport_write` returns, and the clock behind it. -/
structure Write where
  ret : Int
  now : Int
  deriving DecidableEq, Repr

def Session.wrote (s : Session) (ret : Int) : Session := s.emit (.wrote s.conn.message.data ret)

/-- `mqtt_write_data`, `false` for `ESP_FAIL`. A write that is cut short is no error. -/
def Session.writeData (s : Session) (w : Write) : Session × Bool :=
  if w.ret ≤ 0 then (s.wrote w.ret, false) else ({ s.wrote w.ret with keepaliveTick := w.now }, true)

/-- `esp_mqtt_abort_connection`. -/
def Session.abortConnection (s : Session) (now : Int) : Session :=
  { s with
    rx := { s.rx with connected := false }
    waitTimeoutMs := s.reconnectTimeoutMs
    reconnectTick := now
    state := .waitTimeout
    waitForPingResp := false
    log := .dispatched .disconnected :: .closed :: s.log }

/-- The two allocations of `outbox_enqueue`, and the clock in front of them. -/
structure Alloc where
  ok : Bool := true
  now : Int
  deriving DecidableEq, Repr

/-- `mqtt_enqueue_oversized`, with the part of the payload that is not in the buffer. -/
def Session.enqueueOversized (s : Session) (remaining : List UInt8) (a : Alloc) : Session :=
  if a.ok then
    let item : Item :=
      { buffer := s.conn.message.data ++ remaining
        msgId := s.pendingMsgId
        msgType := s.pendingMsgType
        msgQos := s.pendingPublishQos
        tick := a.now }
    { s with outbox := outboxEnqueue s.outbox item, log := .queued item :: s.log }
  else s

/-- `mqtt_enqueue`. -/
def Session.mqttEnqueue (s : Session) (a : Alloc) : Session :=
  if 0 < s.pendingMsgCount then s.enqueueOversized [] a else s

/-- `is_valid_mqtt_msg`: the acknowledged message leaves the outbox. -/
def Session.isValidMqttMsg (s : Session) (msgType : Nat) (msgId : UInt16) : Session × Bool :=
  if s.pendingMsgCount = 0 then (s, false)
  else
    match outboxDelete s.outbox msgId msgType with
    | none => (s, false)
    | some (item, outbox) =>
      ({ s with
          outbox := outbox
          pendingMsgCount := wrap32 (s.pendingMsgCount - 1)
          log := .dropped item .acked :: s.log },
        true)

def outboxExpiredTimeoutMs : Int := 30 * 1000

def outboxMaxSize : Nat := 4 * 1024

def logDropped (items : List Item) (why : Leave) (log : List Event) : List Event :=
  (items.map fun item => .dropped item why).reverse ++ log

/-- `mqtt_delete_expired_messages`. -/
def Session.deleteExpired (s : Session) (now : Int) : Session :=
  let (items, outbox) := outboxDeleteExpired s.outbox now outboxExpiredTimeoutMs
  { s with
    outbox := outbox
    pendingMsgCount := max 0 (wrap32 (s.pendingMsgCount - items.length))
    log := logDropped items (.expired now) s.log }

/-- Only messages of QoS 1 and 2 are marked as duplicates. -/
def Item.setsDup (item : Item) : Bool := item.msgType == mqttMsgTypePublish && 0 < item.msgQos

/-- The message that `mqtt_resend_queued` decodes. The flag for duplicates is set in the outbox
itself. -/
def Session.decodeQueued (s : Session) (item : Item) : Session :=
  { s with
    pendingMsgId := item.msgId
    pendingMsgType := item.msgType
    pendingPublishQos := item.msgQos
    outbox := if item.setsDup then outboxSetDup s.outbox item.pending else s.outbox
    conn :=
      { s.conn with
        message :=
          { s.conn.message with
            data := if item.setsDup then mqttSetDup item.buffer else item.buffer } }
    log := .resent item :: s.log }

/-- A message of QoS 0 is deleted behind its transmission. -/
def Session.deleteSent (s : Session) (item : Item) : Session :=
  if item.msgType = mqttMsgTypePublish ∧ item.msgQos = 0 then
    match outboxDeleteItem s.outbox item.pending with
    | none => s
    | some (gone, outbox) => { s with outbox := outbox, log := .dropped gone .sent :: s.log }
  else s

/-- `mqtt_resend_queued`, on the first item with its mark. -/
def Session.mqttResendQueued (s : Session) (item : Item) (w : Write) (abortNow : Int) :
    Session × Bool :=
  match (s.decodeQueued item).writeData w with
  | (s, false) => (s.abortConnection abortNow, false)
  | (s, true) => (s.deleteSent item, true)

/-! ## Receiving -/

/-- What a round in `MQTT_STATE_CONNECTED` meets: the answers of the transport, an id to be
drawn for the acknowledgement of a message without one, the results of its writes, and the
clock each time it is read. -/
structure RoundEnv where
  answers : List TransportRead := []
  drawn : MsgId := ⟨1, by decide⟩
  ackWrite : Write := ⟨0, 0⟩
  expireNow : Int := 0
  resendWrite : Write := ⟨0, 0⟩
  resendAbortNow : Int := 0
  retransmitNow : Int := 0
  lastRetransmit : Int := 0
  keepaliveNow : Int := 0
  pingWrite : Write := ⟨0, 0⟩
  refreshNow : Int := 0
  abortNow : Int := 0
  deriving DecidableEq, Repr

/-- SUBACK, UNSUBACK, PUBACK and PUBCOMP: the message that they acknowledge is deleted, and the
event is posted if there was one. -/
def Session.acknowledge (s : Session) (msgType : Nat) (msgId : UInt16) (e : EventId) : Session :=
  match s.isValidMqttMsg msgType msgId with
  | (s, false) => s
  | (s, true) =>
    -- a PUBLISH is confirmed behind its deletion: another item with its id would be
    let s :=
      if e = .published then { s with outbox := outboxSetPending s.outbox msgId .confirmed } else s
    s.emit (.dispatched e)

/-- The case PUBLISH of `mqtt_process_receive` behind `deliver_publish`. -/
def Session.respond (s : Session) (msgQos : Nat) (msgId : UInt16) (e : RoundEnv) : Session × Bool :=
  let s :=
    if msgQos = 1 then { s with conn := mqttMsgPuback s.conn msgId e.drawn }
    else if msgQos = 2 then { s with conn := mqttMsgPubrec s.conn msgId e.drawn }
    else s
  -- at QoS 0 this looks at whatever message was built before
  if s.conn.message.data = [] then (s, false)
  else if msgQos = 1 ∨ msgQos = 2 then s.writeData e.ackWrite
  else (s, true)

def Session.logData (s : Session) (evs : List MqttEvent) : Session :=
  { s with log := (evs.map .data).reverse ++ s.log }

/-- `deliver_publish`, with the events that it posts. -/
def Session.delivered (s : Session) (t : List TransportRead) : Session :=
  { s with rx := (deliverPublish s.rx t).1 }.logData (deliverPublish s.rx t).2.1

def Session.handlePublish (s : Session) (t : List TransportRead) (msgQos : Nat) (msgId : UInt16)
    (e : RoundEnv) : Session × Bool :=
  if (deliverPublish s.rx t).2.2 then (s.delivered t).respond msgQos msgId e
  else (s.delivered t, false)

/-- The message that answers a PUBREC or PUBREL; the result of the write is not looked at. -/
def Session.answer (s : Session) (w : Write) : Session × Bool :=
  if s.conn.message.data = [] then (s, false) else ((s.writeData w).1, true)

def Session.handlePubrec (s : Session) (msgId : UInt16) (e : RoundEnv) : Session × Bool :=
  let conn := mqttMsgPubrel s.conn msgId e.drawn
  if conn.message.data = [] then ({ s with conn := conn }, false)
  else
    { s with conn := conn, outbox := outboxSetPending s.outbox msgId .acknowledged }.answer e.ackWrite

def Session.handlePubrel (s : Session) (msgId : UInt16) (e : RoundEnv) : Session × Bool :=
  { s with conn := mqttMsgPubcomp s.conn msgId e.drawn }.answer e.ackWrite

/-- The `switch` of `mqtt_process_receive`, with the transport that is left. -/
def Session.handleType (s : Session) (type : Nat) (msgQos : Nat) (msgId : UInt16)
    (t : List TransportRead) (e : RoundEnv) : Session × Bool :=
  if type = 9 then (s.acknowledge mqttMsgTypeSubscribe msgId .subscribed, true)
  else if type = 11 then (s.acknowledge mqttMsgTypeUnsubscribe msgId .unsubscribed, true)
  else if type = mqttMsgTypePublish then s.handlePublish t msgQos msgId e
  else if type = 4 ∨ type = 7 then (s.acknowledge mqttMsgTypePublish msgId .published, true)
  else if type = 5 then s.handlePubrec msgId e
  else if type = 6 then s.handlePubrel msgId e
  else if type = 13 then ({ s with waitForPingResp := false }, true)
  else (s, true)

def Session.handle (s : Session) (t : List TransportRead) (e : RoundEnv) : Session × Bool :=
  let type := mqttGetType s.rx.inBuffer
  let msgId := mqttGetId s.rx.inBuffer s.rx.messageLength
  (s.emit (.received type msgId)).handleType type (mqttGetQos s.rx.inBuffer) msgId t e

/-- `mqtt_process_receive`, `false` for `ESP_FAIL`. -/
def Session.processReceive (s : Session) (e : RoundEnv) : Session × Bool :=
  match mqttMessageReceive.run (s.rx, e.answers) with
  | (.error ret, (rx, _)) => ({ s with rx := rx }, decide (0 ≤ ret))
  | (.ok (), (rx, t)) =>
    let (s, ok) := { s with rx := rx }.handle t e
    if ok then ({ s with rx := { s.rx with inBufferReadLen := 0 } }, true) else (s, false)

/-! ## The rounds of the task -/

/-- What a round in `MQTT_STATE_INIT` meets. -/
structure ConnectEnv where
  transport : Bool := true
  write : Write := ⟨0, 0⟩
  attempts : List (List TransportRead) := []
  refreshNow : Int := 0
  abortNow : Int := 0
  deriving DecidableEq, Repr

/-- `esp_mqtt_connect`: the CONNECT, and the wait for its answer. -/
def Session.mqttConnect (s : Session) (e : ConnectEnv) : Session × Bool :=
  let s := { s with waitForPingResp := false, conn := mqttMsgConnect s.conn s.info }
  if s.conn.message.data = [] then (s, false)
  else
    let s :=
      { s with
        pendingMsgType := mqttGetType s.conn.message.data
        pendingMsgId := mqttGetId s.conn.message.data s.conn.message.data.length
        log := .wrote s.conn.message.data e.write.ret :: s.log }
    if e.write.ret < 0 then (s, false)
    else
      let s := { s with rx := espMqttConnect s.rx e.attempts }
      (s, s.rx.connected)

def Session.connectRound (s : Session) (e : ConnectEnv) : Session :=
  let s := { s with disconnectBit := false }.emit (.dispatched .beforeConnect)
  if ¬ e.transport then s.abortConnection e.abortNow
  else
    let (s, ok) := (s.emit .opened).mqttConnect e
    if ok then
      { s with
        state := .connected
        refreshConnectionTick := e.refreshNow
        log := .dispatched .connected :: s.log }
    else s.abortConnection e.abortNow

/-- The messages that were not transmitted come first; of the others only the oldest is sent
again, once a second. -/
def Session.retransmit (s : Session) (e : RoundEnv) : Session :=
  match outboxDequeue s.outbox .queued with
  | some item =>
    let (s, ok) := s.mqttResendQueued item e.resendWrite e.resendAbortNow
    if ok then { s with outbox := outboxSetPending s.outbox s.pendingMsgId .transmitted } else s
  | none =>
    if 1000 < elapsed e.retransmitNow s.lastRetransmit then
      let s := { s with lastRetransmit := e.lastRetransmit }
      match outboxDequeue s.outbox .transmitted with
      | some item =>
        if 1000 < elapsed e.lastRetransmit item.tick then
          (s.mqttResendQueued item e.resendWrite e.resendAbortNow).1
        else s
      | none => s
    else s

/-- `esp_mqtt_client_ping`. -/
def Session.ping (s : Session) (w : Write) : Session × Bool :=
  let s := { s with conn := mqttMsgPingreq s.conn }
  if s.conn.message.data = [] then (s, false) else s.writeData w

/-- The keep-alive part of a round, `false` for the `break` behind `esp_mqtt_abort_connection`. -/
def Session.keepAlive (s : Session) (e : RoundEnv) : Session × Bool :=
  if 0 < s.info.keepalive
      ∧ (s.info.keepalive * 1000 / 2 : Nat) < elapsed e.keepaliveNow s.keepaliveTick then
    if s.waitForPingResp then (s.abortConnection e.abortNow, false)
    else
      let (s, ok) := s.ping e.pingWrite
      if ok then ({ s with waitForPingResp := true }, true)
      else (s.abortConnection e.abortNow, false)
  else (s, true)

def Session.refresh (s : Session) (e : RoundEnv) : Session :=
  if 0 < s.refreshConnectionAfterMs
      ∧ (s.refreshConnectionAfterMs : Int) < elapsed e.refreshNow s.refreshConnectionTick then
    { s.abortConnection e.abortNow with state := .init }
  else s

def Session.cleanup (s : Session) : Session :=
  let (items, outbox) := outboxCleanup s.outbox outboxMaxSize
  { s with outbox := outbox, log := logDropped items .confirmed s.log }

def Session.connectedRound (s : Session) (e : RoundEnv) : Session :=
  if s.disconnectBit then { s with disconnectBit := false }.abortConnection e.abortNow
  else
    let (s, ok) := s.processReceive e
    if ok then
      -- a connection that is lost in `retransmit` is noticed by the next round only
      let (s, ok) := ((s.deleteExpired e.expireNow).retransmit e).keepAlive e
      if ok then (s.refresh e).cleanup else s
    else s.abortConnection e.abortNow

def Session.waitRound (s : Session) (now : Int) : Session :=
  if ¬ s.autoReconnect then { s with run := false, state := .unknown }
  else if s.waitTimeoutMs < elapsed now s.reconnectTick then
    { s with state := .init, reconnectTick := now }
  else s

/-! ## The interface -/

/-- The payload of a publish: without a length it is a string. -/
def Payload.of (data : Option (List UInt8)) (len : Nat) : Payload :=
  match data with
  | none => .null len
  | some d => if len = 0 then .bytes (cstr d) else .bytes (d.take len)

/-- The arguments of a publish, and what it meets in `mqtt_client_enqueue_priv`. `data` is the
memory behind the pointer. -/
structure Publish where
  topic : List UInt8
  data : Option (List UInt8)
  len : Nat := 0
  qos : Nat
  retain : Nat := 0
  id : MsgId
  alloc : Alloc := { now := 0 }
  deriving DecidableEq, Repr

def Publish.payload (p : Publish) : Payload := .of p.data p.len

/-- `fragmented_msg_total_length = 0`. -/
def Session.clearFragmented (s : Session) : Session :=
  { s with conn := { s.conn with message := { s.conn.message with fragmentedMsgTotalLength := 0 } } }

/-- What is noted of the message in the buffer before it is stored. -/
def Session.noted (s : Session) (msgId : UInt16) (qos : Nat) : Session :=
  { s with
    pendingMsgType := mqttGetType s.conn.message.data
    pendingMsgId := msgId
    pendingPublishQos := qos
    pendingMsgCount := wrap32 (s.pendingMsgCount + 1) }

/-- `length - fragmented_msg_data_offset` as an `int`: how much of the payload the buffer holds, if it
does not hold all of the message. -/
def Connection.firstFragment (c : Connection) : Int :=
  toInt32 (UInt32.ofNat c.message.data.length - c.message.fragmentedMsgDataOffset).toNat

/-- The message is stored, with the part of its payload that is not in the buffer. -/
def Session.storePublish (s : Session) (p : Publish) (msgId : UInt16) : Session :=
  let s := s.noted msgId p.qos
  if s.conn.message.fragmentedMsgTotalLength = 0 then s.mqttEnqueue p.alloc
  else
    (s.enqueueOversized (p.payload.data.drop s.conn.firstFragment.toNat) p.alloc).clearFragmented

/-- `mqtt_client_enqueue_priv`, `none` for its `-1`. -/
def Session.enqueuePriv (s : Session) (p : Publish) (store : Bool) : Session × Option UInt16 :=
  let (conn, msgId) := mqttMsgPublish s.conn p.topic p.payload p.qos p.retain p.id
  let s := { s with conn := conn }
  if conn.message.data = [] then (s, none)
  else if 0 < p.qos ∨ store then (s.storePublish p msgId, some msgId)
  else (s, some msgId)

def Session.withData (s : Session) (data : List UInt8) : Session :=
  { s with conn := { s.conn with message := { s.conn.message with data := data } } }

/-- `fragmented_msg_data_offset = 0`, and the same. -/
def Session.clearOffset (s : Session) : Session :=
  { s with
    conn :=
      { s.conn with
        message :=
          { s.conn.message with fragmentedMsgDataOffset := 0, fragmentedMsgTotalLength := 0 } } }

/-- The sending loop of `esp_mqtt_client_publish` from its second round on: what is left of the
payload, a buffer a round. The result is what a failed write leaves. -/
def Session.sendRemaining (s : Session) : (remaining : List UInt8) → List Write → Session × Bool
  | [], _ => (s, true)
  | _ :: _, [] => (s, false)
  | b :: remaining, w :: ws =>
    let (s, ok) := (s.withData ((b :: remaining).take s.conn.bufferLength)).clearOffset.writeData w
    if ok then s.sendRemaining (remaining.drop (s.conn.bufferLength - 1)) ws else (s, false)

/-- The payload as the sending loop counts it: `len` bytes, also when `len` is `0` and
`mqtt_client_enqueue_priv` has taken it for a string. -/
def Publish.counted (p : Publish) : List UInt8 := (p.data.getD []).take p.len

/-- The sending loop. `data_sent` is what the first message holds of the payload, and more than
all of it when the message is complete. -/
def Session.sendPublish (s : Session) (p : Publish) (ws : List Write) : Session × Bool :=
  match ws with
  | [] => (s, false)
  | w :: ws =>
    let (s, ok) := s.writeData w
    if ok then
      s.clearOffset.sendRemaining (p.counted.drop s.conn.firstFragment.toNat) ws
    else (s, false)

structure PublishEnv where
  writes : List Write := []
  tickNow : Int := 0
  expireNow : Int := 0
  abortNow : Int := 0
  deriving DecidableEq, Repr

/-- `esp_mqtt_client_publish`. -/
def Session.publish (s : Session) (p : Publish) (e : PublishEnv) : Session :=
  match s.enqueuePriv p false with
  | (s, none) => s
  | (s, some msgId) =>
    if s.state ≠ .connected then (s.deleteExpired e.expireNow).clearFragmented
    else
      let (s, ok) := s.sendPublish p e.writes
      if ¬ ok then (s.abortConnection e.abortNow).clearFragmented
      else if 0 < p.qos then
        { s with
          outbox := outboxSetPending (outboxSetTick s.outbox msgId e.tickNow) msgId .transmitted }
      else s

/-- `esp_mqtt_client_enqueue`: a message of QoS 0 that is not stored is built for nothing. -/
def Session.enqueue (s : Session) (p : Publish) (store : Bool) : Session := (s.enqueuePriv p store).1

/-- The id that `mqtt_msg_subscribe` and `mqtt_msg_unsubscribe` store, also when they fail. -/
def requestId (c : Connection) (topic : List UInt8) (id : MsgId) (stored : UInt16) : UInt16 :=
  if topic = [] then stored else if (appendMessageId c id []).isNone then 0 else id

/-- `esp_mqtt_client_subscribe` and `esp_mqtt_client_unsubscribe`, on the message they build. A
write that fails leaves the connection as it is. -/
def Session.request (s : Session) (topic : List UInt8) (conn : Connection) (id : MsgId) (a : Alloc)
    (w : Write) : Session :=
  if s.state ≠ .connected then s
  else
    let s := { s with conn := conn, pendingMsgId := requestId s.conn topic id s.pendingMsgId }
    if conn.message.data = [] then s
    else
      -- the QoS that is noted is that of some earlier publish
      let s := (s.noted s.pendingMsgId s.pendingPublishQos).mqttEnqueue a
      ({ s with outbox := outboxSetPending s.outbox s.pendingMsgId .transmitted }.writeData w).1

def Session.subscribe (s : Session) (topic : List UInt8) (qos : Nat) (id : MsgId) (a : Alloc)
    (w : Write) : Session :=
  s.request topic (mqttMsgSubscribe s.conn topic qos id) id a w

def Session.unsubscribe (s : Session) (topic : List UInt8) (id : MsgId) (a : Alloc) (w : Write) :
    Session :=
  s.request topic (mqttMsgUnsubscribe s.conn topic id) id a w

/-- `esp_mqtt_client_stop` from another task, which waits for the end of the client task. -/
def Session.stop (s : Session) (w : Write) : Session :=
  if ¬ s.run then s
  else
    let ended (s : Session) : Session :=
      { s with
        run := false
        state := .unknown
        rx := { s.rx with connected := false }
        log := .closed :: s.log }
    if s.state = .connected then
      let s := { s with conn := mqttMsgDisconnect s.conn }
      if s.conn.message.data = [] then s else ended (s.writeData w).1
    else ended s

/-- `esp_mqtt_client_start`, with the prologue of `esp_mqtt_task`. -/
def Session.start (s : Session) : Session :=
  if s.state ≠ .unknown then s else { s with run := true, state := .init, lastRetransmit := 0 }

/-! ## The machine -/

inductive Input where
  | connect (e : ConnectEnv)
  | round (e : RoundEnv)
  | wait (now : Int)
  -- the `esp_transport_poll_read` between two rounds has failed
  | pollFailed (abortNow : Int)
  | publish (p : Publish) (e : PublishEnv)
  | enqueue (p : Publish) (store : Bool)
  | subscribe (topic : List UInt8) (qos : Nat) (id : MsgId) (a : Alloc) (w : Write)
  | unsubscribe (topic : List UInt8) (id : MsgId) (a : Alloc) (w : Write)
  | disconnect
  | reconnect
  | start
  | stop (w : Write)
  deriving DecidableEq, Repr

def Session.step (s : Session) : Input → Session
  | .connect e => if s.run ∧ s.state = .init then s.connectRound e else s
  | .round e => if s.run ∧ s.state = .connected then s.connectedRound e else s
  | .wait now => if s.run ∧ s.state = .waitTimeout then s.waitRound now else s
  | .pollFailed now => if s.run ∧ s.state = .connected then s.abortConnection now else s
  | .publish p e => s.publish p e
  | .enqueue p store => s.enqueue p store
  | .subscribe topic qos id a w => s.subscribe topic qos id a w
  | .unsubscribe topic id a w => s.unsubscribe topic id a w
  | .disconnect => { s with disconnectBit := true }
  | .reconnect => if s.state = .waitTimeout then { s with waitTimeoutMs := 0 } else s
  | .start => s.start
  | .stop w => s.stop w

/-- The client that was initialised and has met the inputs. -/
def Config.run (config : Config) (now : Int) (inputs : List Input) : Session :=
  (Machine.run (Machine.silent Session.step) (.init config now) inputs).1

/-! ## A client to try -/

def sampleId : MsgId := ⟨5, by decide⟩

/-- A client with a buffer of 20 bytes. -/
def smallConfig : Config where
  inBuffer := List.replicate 16 0
  outBufferLength := 20
  info := { clientId := [65], keepalive := 120 }
  hroom := by decide

end ControlFan.Mqtt
