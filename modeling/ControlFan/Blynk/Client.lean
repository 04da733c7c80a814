import ControlFan.Lib.CString
import ControlFan.Lib.Machine

/-!
# Blynk — the receiving side of the client (`blynk/blynk_iot.c`)

The server's bytes go one at a time through `p->parse`, one of four functions that fill
`p->message` and call `handle_message` behind the last byte of a frame. The message is one
for the whole connection and is never cleared. What `handle_message` does, the application's
handlers included, is a parameter: it may change the client in any way, and the parsers look
at nothing that it leaves behind.
-/

namespace ControlFan.Blynk

open CString Machine

/-! ## The client -/

inductive BlynkState where
  | stopped
  | disconnected
  | connected
  | authenticated
  deriving DecidableEq, Repr

def blynkMaxPayloadLen : Nat := 512

def blynkCmdResponse : UInt8 := 0

structure Message where
  command : UInt8
  id : UInt16
  len : UInt16
  payload : CArray blynkMaxPayloadLen
  deriving DecidableEq, Repr

/-- The functions that `p->parse` can point at. -/
inductive Parse where
  | cmd
  | id
  | len
  | payload
  deriving DecidableEq, Repr

/-- The client: `state.state`, the part of `_blynk_private_t` that the parsers use, and
everything else in `rest`. -/
structure Client (σ : Type) where
  state : BlynkState
  parse : Parse
  message : Message
  cnt : Nat
  rest : σ
  deriving DecidableEq, Repr

/-- A call of `handle_message`: the message it finds, and the state it leaves. -/
structure Call where
  message : Message
  after : BlynkState
  deriving DecidableEq, Repr

/-! ## The parsers -/

section Parsers

variable {σ : Type} (handleMessage : Client σ → Client σ)

/-- `handle_message(c); p->parse = parse_cmd;`. -/
def dispatch (c : Client σ) : Client σ × List Call :=
  ({ handleMessage c with parse := .cmd },
    [{ message := c.message, after := (handleMessage c).state }])

/-- `x = (x << 8) | d` for a `uint16_t`. -/
def shiftIn (x : UInt16) (d : UInt8) : UInt16 := x <<< 8 ||| d.toUInt16

/-- `p->cnt++` for an `unsigned int`. -/
def Client.count (c : Client σ) : Client σ := { c with cnt := (c.cnt + 1) % 2 ^ 32 }

def parseCmd (c : Client σ) (d : UInt8) : Client σ :=
  { c with message := { c.message with command := d }, cnt := 0, parse := .id }

def parseId (c : Client σ) (d : UInt8) : Client σ :=
  let c := { c with message := { c.message with id := shiftIn c.message.id d } }.count
  -- two bytes shift the old id out
  if 2 ≤ c.cnt then { c with cnt := 0, parse := .len } else c

def parseLen (c : Client σ) (d : UInt8) : Client σ × List Call :=
  let c := { c with message := { c.message with len := shiftIn c.message.len d } }.count
  if 2 ≤ c.cnt then
    -- the length field of a response is its status
    if c.message.command ≠ blynkCmdResponse ∧ c.message.len ≠ 0 then
      ({ c with cnt := 0, parse := .payload }, [])
    else dispatch handleMessage c
  else (c, [])

/-- `p->message.payload[p->cnt] = d`, as long as there is room. -/
def Message.store (m : Message) (i : Nat) (d : UInt8) : Message :=
  if i < blynkMaxPayloadLen then { m with payload := m.payload.set i d } else m

def parsePayload (c : Client σ) (d : UInt8) : Client σ × List Call :=
  let c := { c with message := c.message.store c.cnt d }.count
  -- the bytes that did not fit were counted all the same
  if c.message.len.toNat ≤ c.cnt then
    dispatch handleMessage
      (if blynkMaxPayloadLen < c.cnt then { c with message := { c.message with len := 512 } } else c)
  else (c, [])

def parse (c : Client σ) (d : UInt8) : Client σ × List Call :=
  match c.parse with
  | .cmd => (parseCmd c d, [])
  | .id => (parseId c d, [])
  | .len => parseLen handleMessage c d
  | .payload => parsePayload handleMessage c d

/-! ## The read loop -/

def Client.isDisconnected (c : Client σ) : Bool := c.state = .disconnected

/-- One `read()` of `blynk_loop` that gives the bytes of `chunk`; no bytes mean that the
server closed the connection. -/
def readChunk (c : Client σ) (chunk : List UInt8) : Client σ × List Call :=
  if chunk = [] then ({ c with state := .disconnected }, [])
  else runUntil (parse handleMessage) Client.isDisconnected c chunk

/-- The reads of one connection. The loop is left as soon as the client is disconnected. -/
def readLoop : Client σ → List (List UInt8) → Client σ × List Call :=
  runUntil (readChunk handleMessage) Client.isDisconnected

end Parsers

end ControlFan.Blynk
