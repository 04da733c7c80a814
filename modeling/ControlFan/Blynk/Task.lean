import ControlFan.Blynk.Awaiting
import ControlFan.Blynk.Handlers

/-!
# Blynk — the client task and the threads of the application

The whole client as one transition system. The client task runs `blynk_loop` one step after the
other; threads of the application call the API at any time, and a send is several steps of its
thread: the state check, the entry into the control queue, the datagram that wakes the task.
What the network, the clock and `select` do is the input of a step.

The callbacks of the application run in the client task, but all that they can do to the client
is to call the API. A call that a callback makes is a call of some thread while the task stands
still, so the steps are cut behind every callback.

* **`Rest`** — what the client has besides the parsers, with the `log` of all that it did;
* **`handleMessage`** — `handle_message`, the parameter of the parsers;
* **`Sys.task`** — one step of the client task, by its program counter;
* **`Sys.step`** — one step of the clock, of the task or of a thread.
-/

namespace ControlFan.Blynk

open CString Machine Slots

/-! ## Options -/

structure Options where
  server : CArray 255
  token : CArray 64
  reconnectDelay : UInt32
  pingInterval : UInt32
  timeout : UInt32
  deriving DecidableEq, Repr

def defaultServer : List UInt8 :=
  ascii ['s', 'g', 'p', '1', '.', 'b', 'l', 'y', 'n', 'k', '.', 'c', 'l', 'o', 'u', 'd']

def defaultPort : List UInt8 := ascii ['8', '0']

def colon : UInt8 := 58

/-- The options that `blynk_init` leaves. -/
def Options.zero : Options where
  server := CArray.zero 255
  token := CArray.zero 64
  reconnectDelay := 0
  pingInterval := 0
  timeout := 0

/-- `blynk_set_options`: the options that it stores; `none` for `BLYNK_ERR_INVALID_OPTION`. -/
def blynkSetOptions (opt : Options) : Option Options :=
  if deref opt.token.bytes = 0 then none
  else
    some
      { opt with
        server :=
          if deref opt.server.bytes = 0 then
            strlcpy opt.server (defaultServer ++ colon :: defaultPort)
          -- `memchr` looks at the whole array
          else if colon ∉ opt.server.bytes then
            strlcpy opt.server (cstr opt.server.bytes ++ colon :: defaultPort)
          else opt.server
        pingInterval := if opt.pingInterval = 0 then 2000 else opt.pingInterval
        timeout := if opt.timeout = 0 then 5000 else opt.timeout
        reconnectDelay := if opt.reconnectDelay = 0 then 5000 else opt.reconnectDelay }

/-- `portTICK_RATE_MS`, for the 100 ticks a second of `sdkconfig`. -/
def portTickRateMs : Nat := 10

def Options.timeoutTicks (opt : Options) : Nat := opt.timeout.toNat / portTickRateMs

def Options.pingTicks (opt : Options) : Nat := opt.pingInterval.toNat / portTickRateMs

/-! ## The client -/

/-- `blynk_ctl_t`, with the number that the request got when it was queued. -/
structure Ctl where
  message : Message
  deadline : Nat
  handler : Option ResponseHandler
  data : Nat
  req : Nat
  hsize : message.size ≤ 512
  deriving DecidableEq, Repr

/-- `blynk_state_evt_t`. -/
structure StateEvt where
  state : BlynkState
  reason : BlynkErr := .ok
  code : Int := 0
  deriving DecidableEq, Repr

/-- Who writes `state.state`. -/
inductive Writer where
  | blynkStart
  | setState
  | setDisconnected
  deriving DecidableEq, Repr

/-- Who calls a response handler; the timers with the tick count they go by. -/
inductive Cause where
  | message
  | timer (now : Nat)
  deriving DecidableEq, Repr

/-- What the client does, as far as anyone can see it. -/
inductive Event where
  /-- `connect` succeeds: a new connection. -/
  | connected
  | queued (ctl : Ctl)
  | taken (ctl : Ctl)
  /-- The message is serialised under this id. -/
  | frame (ctl : Ctl) (id : UInt16)
  /-- The server's socket accepts these bytes. -/
  | sent (bytes : List UInt8)
  | received (m : Message)
  | invoked (req : Nat) (handler : ResponseHandler) (status : UInt16) (data : Nat) (cause : Cause)
  | command (handler : Nat) (id : UInt16) (name : List UInt8) (args : List (List UInt8)) (data : Nat)
  | state (writer : Writer) (old new : BlynkState)
  /-- The state handler of the application is called. -/
  | report (ev : StateEvt)
  deriving DecidableEq, Repr

/-- The rest of the client. `queue` is the content of `ctl_queue`, `unread` the number of
datagrams that wait at the receiving end of the control sockets, `now` the tick count. The pair
that `blynk_socketpair` made, the calls of the state handler that are due, the number of requests
queued so far and the log, newest first, are not fields of the source. -/
structure Rest where
  requests : Requests
  queue : List Ctl
  pingDeadline : Nat
  wrBuf : List UInt8
  bufTotal : Nat
  bufSent : Nat
  ctl0 : Int
  ctl1 : Int
  handlers : Handlers
  opt : Options
  evtHandler : Bool
  pair : Int × Int
  unread : Nat
  now : Nat
  reports : List StateEvt
  nreq : Nat
  log : List Event
  deriving DecidableEq, Repr

/-- The client behind a successful `blynk_init`. -/
def blynkInit (pair : Int × Int) : Client Rest where
  state := .stopped
  parse := .cmd
  message := { command := 0, id := 0, len := 0, payload := CArray.zero 512 }
  cnt := 0
  rest :=
    { requests := { id := 0, awaiting := Table.fill blynkMaxAwaiting .zeroed }
      queue := []
      pingDeadline := 0
      wrBuf := []
      bufTotal := 0
      bufSent := 0
      ctl0 := pair.1
      ctl1 := pair.2
      handlers := .empty
      opt := .zero
      evtHandler := false
      pair := pair
      unread := 0
      now := 0
      reports := []
      nreq := 0
      log := [] }

def Client.emit (c : Client Rest) (e : Event) : Client Rest :=
  { c with rest := { c.rest with log := e :: c.rest.log } }

/-! ## The state -/

/-- The write of `set_state`, `set_disconnected` and `blynk_start` under the mutex. -/
def Client.writeState (c : Client Rest) (writer : Writer) (state : BlynkState) : Client Rest :=
  { c.emit (.state writer c.state state) with state := state }

/-- The call of the state handler that follows a write, as soon as the task goes on. -/
def Client.due (c : Client Rest) (ev : StateEvt) : Client Rest :=
  if c.rest.evtHandler then
    { c with rest := { c.rest with reports := c.rest.reports ++ [ev] } }
  else c

def setState (c : Client Rest) (state : BlynkState) : Client Rest :=
  (c.writeState .setState state).due { state := state }

def setDisconnected (c : Client Rest) (reason : BlynkErr) (code : Int) : Client Rest :=
  (c.writeState .setDisconnected .disconnected).due
    { state := .disconnected, reason := reason, code := code }

def blynkStatusSuccess : UInt16 := 200

def blynkStatusIllegalCommand : UInt16 := 2

def blynkStatusResponseTimeout : UInt16 := 0xffff

def authCb (c : Client Rest) (status : UInt16) : Client Rest :=
  if status ≠ blynkStatusSuccess then
    if status = blynkStatusResponseTimeout then setDisconnected c .timeout 0
    else setDisconnected c .status status.toNat
  else setState c .authenticated

def pingCb (c : Client Rest) (status : UInt16) : Client Rest :=
  if status ≠ blynkStatusSuccess then
    if status = blynkStatusResponseTimeout then setDisconnected c .timeout 0
    else setDisconnected c .status status.toNat
  else c

/-- `p->awaiting[i].handler(c, status, p->awaiting[i].data)`, if there is a handler. -/
def Client.invoke (c : Client Rest) (a : Awaiting) (status : UInt16) (cause : Cause) : Client Rest :=
  match a.handler with
  | none => c
  | some handler =>
    let c := c.emit (.invoked a.req handler status a.data cause)
    match handler with
    | .authCb => authCb c status
    | .pingCb => pingCb c status
    | .app _ => c
    | .wild _ => c

/-! ## Sending -/

def queueSize : Nat := 8

/-- What happens to a datagram written to `ctl[1]`. -/
inductive CtlWrite where
  | delivered
  | dropped
  | refused
  deriving DecidableEq, Repr

/-- The `ctl` that `blynk_send_internal` builds; its number comes with its place in the queue. -/
def Client.ctl (c : Client Rest) (s : Send) : Ctl where
  message := s.message
  deadline := if s.handler.isSome then c.rest.opt.timeoutTicks + c.rest.now else 0
  handler := s.handler
  data := s.data
  req := 0
  hsize := s.size_message_le

/-- `xQueueSend`, when there is room. -/
def Client.enqueue (c : Client Rest) (ctl : Ctl) : Client Rest :=
  let ctl := { ctl with req := c.rest.nreq }
  { c with
    rest :=
      { c.rest with
        queue := c.rest.queue ++ [ctl]
        nreq := c.rest.nreq + 1
        log := .queued ctl :: c.rest.log } }

def Client.room (c : Client Rest) : Bool := c.rest.queue.length < queueSize

/-- `printf` of a text up to its `%n`, which stores the length of the text to `ctl[0]`. -/
def Client.printfN (c : Client Rest) (text : List UInt8) : Client Rest :=
  { c with rest := { c.rest with ctl0 := text.length } }

def privCtr : List UInt8 := ascii ['p', 'r', 'i', 'v', ' ', 'c', 't', 'r', ' ']

def privCtr2 : List UInt8 := ascii ['p', 'r', 'i', 'v', ' ', 'c', 't', 'r', '2', ' ', ' ']

/-- `write(c->priv.ctl[1], &dummy, 1)`, when it is not refused. -/
def Client.wake (c : Client Rest) (answer : CtlWrite) : Client Rest :=
  if answer = .delivered ∧ c.rest.ctl1 = c.rest.pair.2 then
    { c with rest := { c.rest with unread := c.rest.unread + 1 } }
  else c

/-- `blynk_send_internal` with `wait = 0`, as the task itself calls it. -/
def blynkSendInternal (c : Client Rest) (s : Send) (answer : CtlWrite) : Client Rest × BlynkErr :=
  if c.room then
    let c := (c.enqueue (c.ctl s)).printfN privCtr
    if answer = .refused then (c, .errno) else ((c.wake answer).printfN privCtr2, .ok)
  else (c, .mem)

/-- The task sends, and disconnects if it cannot. -/
def Client.sendOrDisconnect (c : Client Rest) (s : Send) (answer : CtlWrite) (errno : Int) :
    Client Rest × BlynkErr :=
  match blynkSendInternal c s answer with
  | (c, .ok) => (c, .ok)
  | (c, ret) => (setDisconnected c ret (if ret = .errno then errno else 0), ret)

/-! ## Messages -/

/-- What the environment answers in one step of the task. -/
structure Env where
  -- `getaddrinfo`, and whether each address can be connected to
  lookup : Int := 0
  addresses : List Bool := [true]
  ctlWrite : CtlWrite := .delivered
  errno : Int := 0
  -- `select`: its result, and the sets it leaves
  nfds : Int := 1
  ctlReady : Bool := false
  rdReady : Bool := false
  wrReady : Bool := false
  -- `read` from `ctl[0]` fails with something else than `EAGAIN`; it finds nothing
  ctlError : Bool := false
  ctlEmpty : Bool := false
  -- `read` from the server: its bytes, none for `EAGAIN`
  rdError : Bool := false
  rdAgain : Bool := false
  bytes : List UInt8 := []
  -- `write` to the server: how many bytes it takes, and the byte behind the text in memory
  wrError : Bool := false
  wrAgain : Bool := false
  accepted : Nat := 0
  behind : UInt8 := 0
  deriving DecidableEq, Repr

/-- The payload with the NUL that `parse_args` puts behind the last argument. -/
def Message.terminated (m : Message) : Message :=
  if m.len = 0 then m
  else
    let len := if m.len.toNat < blynkMaxPayloadLen then m.len.toNat else blynkMaxPayloadLen - 1
    { m with payload := (parseArgs m.payload blynkMaxArgs 0 len).2 }

/-- A response to the request `id` of the server. -/
def responseSend (id status : UInt16) : Send where
  cmd := blynkCmdResponse
  id := id
  len := status
  hnull := fun _ => Or.inl rfl

/-- `handle_message`. A response handler runs before its slot is set free, but it does not see
the table. -/
def handleMessage (e : Env) (c : Client Rest) : Client Rest :=
  let m := c.message
  let c := c.emit (.received m)
  if m.command = blynkCmdResponse then
    let (requests, called) := c.rest.requests.answer m.id
    let c : Client Rest := { c with rest := { c.rest with requests := requests } }
    called.foldl (fun c a => c.invoke a m.len .message) c
  else if m.command = blynkCmdHardware then
    let c : Client Rest := { c with message := m.terminated }
    match m.args with
    | [] => c
    | name :: args =>
      match findHandler c.rest.handlers name with
      | some slot => c.emit (.command (slot.handler.getD 0) m.id name args slot.data)
      | none =>
        (c.sendOrDisconnect (responseSend m.id blynkStatusIllegalCommand) e.ctlWrite e.errno).1
  else c

/-! ## The system -/

/-- What `select` leaves: its result, and the descriptors that are ready. -/
structure Ready where
  nfds : Int
  ctl : Bool
  rd : Bool
  wr : Bool
  deriving DecidableEq, Repr

/-- Where the client task stands, from the entry of `blynk_loop` to the delay behind it. The task
is created by `blynk_start`; it ends when `blynk_loop` does not return `BLYNK_OK`. -/
inductive Pc where
  | absent
  | entry
  | lookup
  | connect
  | setConnected
  | reset
  | advancePing
  | login
  | poll
  -- `wr`: the server's socket is in `wrset`
  | select (wr : Bool)
  | timers (ready : Ready) (now i : Nat)
  | ping (ready : Ready) (now : Nat)
  | check (ready : Ready)
  | readCtl (ready : Ready)
  | read (ready : Ready)
  | parse (ready : Ready) (bytes : List UInt8)
  | write (ready : Ready)
  | close
  | delay
  | terminated
  deriving DecidableEq, Repr

/-- Where a thread stands that calls the API: nowhere, or in a send, or in `blynk_start` before its
call of the state handler. -/
inductive Sender where
  | idle
  -- in `blynk_send_internal`, behind the state check of `blynk_send_with_callback_v` if there is one
  | checked (s : Send)
  | ready (ctl : Ctl)
  | queued (req : Nat)
  | printed (req : Nat)
  | written
  | reporting (ev : StateEvt)
  deriving DecidableEq, Repr

structure Sys where
  client : Client Rest
  pc : Pc
  -- the copy of the options that `blynk_loop` works with
  opt : Options
  senders : Nat → Sender

def Sys.init (pair : Int × Int) : Sys where
  client := blynkInit pair
  pc := .absent
  opt := .zero
  senders := fun _ => .idle

def Sys.goto (s : Sys) (c : Client Rest) (pc : Pc) : Sys := { s with client := c, pc := pc }

/-! ## The client task -/

/-- `blynk_loop` finds a port in the server option, of which it takes 127 bytes. -/
def Options.hasPort (opt : Options) : Bool := colon ∈ (cstr opt.server.bytes).take 127

/-- `memset(&p->awaiting, 0, ..)`, `xQueueReset`, `p->parse = parse_cmd`, `p->id = 1` and
`p->buf_total = 0`: only the queue is shared with other threads. -/
def Client.reset (c : Client Rest) : Client Rest :=
  { c with
    parse := .cmd
    rest := { c.rest with requests := .reset, queue := [], bufTotal := 0 } }

def Client.advancePing (c : Client Rest) : Client Rest :=
  { c with rest := { c.rest with pingDeadline := c.rest.now + c.rest.opt.pingTicks } }

def loginSend (token : CArray 64) : Send where
  cmd := blynkCmdLogin
  len := UInt16.ofNat (cstr token.bytes).length
  payload := some token.bytes
  handler := some .authCb
  hnull := by simp

theorem pingSend_hnull : (none : Option (List UInt8)) = none →
    blynkCmdPing = blynkCmdResponse ∨ (0 : UInt16) = 0 := fun _ => Or.inr rfl

def pingSend : Send where
  cmd := blynkCmdPing
  handler := some .pingCb
  hnull := pingSend_hnull

/-- `blynk_serialize` into `wr_buf`, for the message of `ctl` under its id. -/
def Client.serialize (c : Client Rest) (ctl : Ctl) (id : UInt16) : Client Rest :=
  let frame := blynkSerialize wrBufSize { ctl.message with id := id }
  { c.emit (.frame ctl id) with
    rest :=
      { (c.emit (.frame ctl id)).rest with
        wrBuf := frame, bufTotal := frame.length, bufSent := 0 } }

/-- The dequeued message gets an id, unless it has one, and goes to `wr_buf`. -/
def Sys.take (s : Sys) (ctl : Ctl) (queue : List Ctl) : Sys :=
  let c := { s.client with rest := { s.client.rest with queue := queue } }.emit (.taken ctl)
  if ctl.message.id = 0 then
    let (requests, id) := getId c.rest.requests ctl.deadline ctl.handler ctl.data ctl.req
    let c : Client Rest := { c with rest := { c.rest with requests := requests } }
    if id = 0 then s.goto (setDisconnected c .mem 0) .close
    else s.goto (c.serialize ctl id) (.select true)
  else s.goto (c.serialize ctl ctl.message.id) (.select true)

def Sys.poll (s : Sys) : Sys :=
  -- a partial write happened before
  if s.client.rest.bufTotal ≠ 0 then s.goto s.client (.select true)
  else
    match s.client.rest.queue with
    | [] => s.goto s.client (.select false)
    | ctl :: queue => s.take ctl queue

/-- One round of the loop of `handle_timers`. -/
def Sys.timer (s : Sys) (ready : Ready) (now i : Nat) : Sys :=
  match s.client.rest.requests.expire i now with
  | (_, none) => s.goto s.client (.timers ready now (i + 1))
  | (requests, some a) =>
    let c : Client Rest := { s.client with rest := { s.client.rest with requests := requests } }
    s.goto (c.invoke a blynkStatusResponseTimeout (.timer now)) (.timers ready now (i + 1))

/-- The end of `handle_timers`. -/
def Sys.pingTimer (s : Sys) (ready : Ready) (now : Nat) (e : Env) : Sys :=
  if s.client.rest.pingDeadline % 2 ^ 32 ≠ 0 ∧ timerExpired s.client.rest.pingDeadline now then
    match s.client.advancePing.sendOrDisconnect pingSend e.ctlWrite e.errno with
    | (c, .ok) => s.goto c (.check ready)
    | (c, _) => s.goto c .close
  else s.goto s.client (.check ready)

/-- `read` of one datagram from `ctl[0]`. -/
def Client.readDatagram (c : Client Rest) (e : Env) : Client Rest :=
  if e.ctlEmpty = false ∧ c.rest.ctl0 = c.rest.pair.1 then
    { c with rest := { c.rest with unread := c.rest.unread - 1 } }
  else c

/-- The text that `blynk_loop` writes instead of `wr_buf`, with its NUL. -/
def updateUrl : List UInt8 :=
  ascii ['h', 't', 't', 'p', 's', ':', '/', '/', 's', 'g', 'p', '1', '.', 'b', 'l', 'y', 'n', 'k', '.',
    'c', 'l', 'o', 'u', 'd', '/', 'e', 'x', 't', 'e', 'r', 'n', 'a', 'l', '/', 'a', 'p', 'i', '/',
    'u', 'p', 'd', 'a', 't', 'e', '?', 't', 'o', 'k', 'e', 'n', '=', '0', 'm', 'U', 'b', '3', 'D', 'K',
    'v', 'i', 'C', 'E', 'R', '9', 'i', 'O', 'K', 'V', 'B', 'N', 'G', 'N', 'M', 'x', 'a', 'x', 'k', 'C',
    '6', 'd', 'K', 'b', 'u', '&', 'v', '1', '=', '1', '5', '0'] ++ [0]

/-- The 92 bytes from the text on: one more than it has. -/
def writtenBytes (e : Env) : List UInt8 := updateUrl ++ [e.behind]

/-- `write` to the server takes the first bytes. -/
def Client.writeServer (c : Client Rest) (e : Env) : Client Rest :=
  let bytes := (writtenBytes e).take e.accepted
  let c := c.emit (.sent bytes)
  let sent := c.rest.bufSent + bytes.length
  { c with
    rest :=
      { c.rest with
        bufSent := sent
        bufTotal := if c.rest.bufTotal ≤ sent then 0 else c.rest.bufTotal } }

/-- One step of `blynk_loop` and of `blynk_task` around it. -/
def Sys.blynkLoop (s : Sys) (e : Env) : Sys :=
  let c := s.client
  match s.pc with
  | .absent => s
  | .entry =>
    if c.rest.opt.hasPort then { s with opt := c.rest.opt, pc := .lookup }
    else { s with opt := c.rest.opt, pc := .terminated }
  | .lookup =>
    if e.lookup = 0 then s.goto c .connect else s.goto (setDisconnected c .gai e.lookup) .delay
  | .connect =>
    if e.addresses.any id then s.goto (c.emit .connected) .setConnected
    else s.goto (setDisconnected c .errno e.errno) .delay
  | .setConnected => s.goto (setState c .connected) .reset
  | .reset => s.goto c.reset .advancePing
  | .advancePing => s.goto c.advancePing .login
  | .login =>
    match c.sendOrDisconnect (loginSend s.opt.token) e.ctlWrite e.errno with
    | (c, .ok) => s.goto c .poll
    | (c, _) => s.goto c .close
  | .poll => s.poll
  | .select wr =>
    if e.nfds < 0 then s.goto (setDisconnected c .errno e.errno) .close
    else
      s.goto c (.timers { nfds := e.nfds, ctl := e.ctlReady, rd := e.rdReady, wr := wr && e.wrReady }
        c.rest.now 0)
  | .timers ready now i =>
    if i < blynkMaxAwaiting then s.timer ready now i else s.goto c (.ping ready now)
  | .ping ready now => s.pingTimer ready now e
  | .check ready =>
    if c.state = .disconnected then s.goto c .close
    else if ready.nfds = 0 then s.goto c .poll
    else s.goto c (.readCtl ready)
  | .readCtl ready =>
    if ready.ctl then
      if e.ctlError then s.goto (setDisconnected c .errno e.errno) .close
      else s.goto (c.readDatagram e) (.read ready)
    else s.goto c (.read ready)
  | .read ready =>
    if ready.rd then
      if e.rdError then s.goto (setDisconnected c .errno e.errno) .close
      else if e.rdAgain then s.goto c (.write ready)
      else if e.bytes = [] then s.goto (setDisconnected c .closed 0) .close
      else s.goto c (.parse ready (e.bytes.take blynkMaxPayloadLen))
    else s.goto c (.write ready)
  | .parse ready [] => s.goto c (.write ready)
  | .parse ready (d :: ds) =>
    let c := (parse (handleMessage e) c d).1
    if c.state = .disconnected then s.goto c .close else s.goto c (.parse ready ds)
  | .write ready =>
    if c.rest.bufTotal ≠ 0 ∧ ready.wr then
      if e.wrError then s.goto (setDisconnected c .errno e.errno) .close
      else if e.wrAgain then s.goto c .poll
      else s.goto (c.writeServer e) .poll
    else s.goto c .poll
  | .close => s.goto c .delay
  | .delay => s.goto c .entry
  | .terminated => s

/-- One step of the client task. A call of the state handler that is due comes first. -/
def Sys.task (s : Sys) (e : Env) : Sys :=
  match s.client.rest.reports with
  | [] => s.blynkLoop e
  | ev :: evs =>
    let c := s.client.emit (.report ev)
    { s with client := { c with rest := { c.rest with reports := evs } } }

/-! ## The threads of the application -/

/-- A call of the API; `wait` of a send is what the thread does while the queue is full. -/
inductive ApiCall where
  | send (k : Command)
  | sendResponse (id status : UInt16)
  | setHandler (name : List UInt8) (handler : Option Nat) (data : Nat)
  | removeHandler (name : List UInt8)
  | setOptions (opt : Options)
  | setStateHandler (registered : Bool)
  -- `created`: `xTaskCreate` succeeds
  | start (created : Bool)
  deriving DecidableEq, Repr

def Sys.setSender (s : Sys) (t : Nat) (p : Sender) : Sys :=
  { s with senders := Function.update s.senders t p }

/-- `blynk_start`. The new task waits for the mutex until the state is written. -/
def Sys.blynkStart (s : Sys) (t : Nat) (created : Bool) : Sys :=
  if s.client.state ≠ .stopped then s
  else if created then
    let s' := s.goto (s.client.writeState .blynkStart .disconnected) .entry
    if s.client.rest.evtHandler then s'.setSender t (.reporting { state := .disconnected }) else s'
  else s

/-- The first step of a call. All but the sends are done with it. -/
def Sys.call (s : Sys) (t : Nat) : ApiCall → Sys
  | .send k =>
    match blynkSendWithCallbackV s.client.state k with
    | .ok send => s.setSender t (.checked send)
    | .error _ => s
  | .sendResponse id status => s.setSender t (.checked (responseSend id status))
  | .setHandler name handler data =>
    { s with
      client :=
        { s.client with
          rest :=
            { s.client.rest with
              handlers := (blynkSetHandler s.client.rest.handlers name handler data).1 } } }
  | .removeHandler name =>
    { s with
      client :=
        { s.client with
          rest :=
            { s.client.rest with handlers := blynkRemoveHandler s.client.rest.handlers name } } }
  | .setOptions opt =>
    { s with
      client :=
        { s.client with
          rest := { s.client.rest with opt := (blynkSetOptions opt).getD s.client.rest.opt } } }
  | .setStateHandler registered =>
    { s with client := { s.client with rest := { s.client.rest with evtHandler := registered } } }
  | .start created => s.blynkStart t created

/-- The next step of a thread in a call. A full queue is waited for, or given up. -/
def Sys.proceed (s : Sys) (t : Nat) (answer : CtlWrite) : Sys :=
  match s.senders t with
  | .idle => s
  | .checked send => s.setSender t (.ready (s.client.ctl send))
  | .ready ctl =>
    if s.client.room then
      { s with client := s.client.enqueue ctl }.setSender t (.queued s.client.rest.nreq)
    else if answer = .refused then s.setSender t .idle
    else s
  | .queued req => { s with client := s.client.printfN privCtr }.setSender t (.printed req)
  | .printed _ =>
    if answer = .refused then s.setSender t .idle
    else { s with client := s.client.wake answer }.setSender t .written
  | .written => { s with client := s.client.printfN privCtr2 }.setSender t .idle
  | .reporting ev => { s with client := s.client.emit (.report ev) }.setSender t .idle

inductive Input where
  | tick (n : Nat)
  | task (e : Env)
  | call (t : Nat) (a : ApiCall)
  | proceed (t : Nat) (answer : CtlWrite)
  deriving DecidableEq, Repr

/-- One step of the system: the clock goes on, or the task or a thread does. -/
def Sys.step (s : Sys) : Input → Sys
  | .tick n =>
    { s with client := { s.client with rest := { s.client.rest with now := s.client.rest.now + n } } }
  | .task e => s.task e
  | .call t a => if s.senders t = .idle then s.call t a else s
  | .proceed t answer => s.proceed t answer

/-! ## A first connection -/

/-- Options with a token, and the rest for `blynk_set_options` to fill in. -/
def sampleOptions : Options := { Options.zero with token := (CArray.zero 64).set 0 116 }

/-- The client is started, finds its server and queues its login. -/
def firstConnection : List Input :=
  [.call 0 (.setOptions sampleOptions), .call 0 (.start true)] ++ List.replicate 7 (.task {})

end ControlFan.Blynk
