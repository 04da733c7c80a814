import Mathlib.Algebra.Order.BigOperators.Group.List
import ControlFan.Blynk.Framing

/-!
# Blynk — sending messages and the codec round trip

`blynk_send_internal` copies a message into the control queue and cuts its payload at 512
bytes; `blynk_serialize` writes a queued message into `wr_buf`, which has 512 bytes for the
header and the payload together. The length field is the one of the message either way.

* **`Send.message`** — the message that a call of `blynk_send_internal` queues;
* **`blynkSerialize`** — its frame;
* **`frame_parsed`** — a frame that fits comes back as the message it was made from;
* **`weight_run`** — the parsers never give more messages than the bytes pay for;
* **`roundTrip_iff`** — lists of messages come back exactly when every frame fits.
-/

namespace ControlFan.Blynk

open CString Machine

/-! ## Sending -/

def blynkCmdLogin : UInt8 := 2

def blynkCmdPing : UInt8 := 6

def blynkCmdHardware : UInt8 := 20

/-- What `blynk_response_handler_t` can point at: the client's own two callbacks, a function
of the application, or an address that is not the address of a function. -/
inductive ResponseHandler where
  | authCb
  | pingCb
  | app (f : Nat)
  | wild (addr : Nat)
  deriving DecidableEq, Repr

/-- The arguments of a call of `blynk_send_internal`. `payload` is the memory from the
pointer on, `none` for `NULL`; every caller that passes `NULL` sends a response or a length
of zero. -/
structure Send where
  cmd : UInt8
  id : UInt16 := 0
  len : UInt16 := 0
  payload : Option (List UInt8) := none
  handler : Option ResponseHandler := none
  data : Nat := 0
  hnull : payload = none → cmd = blynkCmdResponse ∨ len = 0 := by decide
  deriving DecidableEq, Repr

theorem length_memcpy (src : List UInt8) (n : Nat) :
    ((src ++ List.replicate n 0).take n).length = n := by
  simp only [List.length_take, List.length_append, List.length_replicate]
  omega

/-- `memcpy` of the bytes of `src` to the start of a cleared array. -/
def memcpyZeroed (n : Nat) (src : List UInt8) : CArray n :=
  ⟨(src ++ List.replicate n 0).take n, length_memcpy src n⟩

/-- `ctl.message` of `blynk_send_internal`. -/
def Send.message (s : Send) : Message :=
  match s.payload with
  | none => { command := s.cmd, id := s.id, len := s.len, payload := CArray.zero 512 }
  | some payload =>
    if s.cmd ≠ blynkCmdResponse ∧ s.len ≠ 0 then
      let len := if blynkMaxPayloadLen < s.len.toNat then 512 else s.len
      { command := s.cmd, id := s.id, len := len
        payload := memcpyZeroed 512 (payload.take len.toNat) }
    else { command := s.cmd, id := s.id, len := s.len, payload := CArray.zero 512 }

theorem Send.message_of_null {s : Send} (h : s.payload = none) :
    s.message = { command := s.cmd, id := s.id, len := s.len, payload := CArray.zero 512 } := by
  rw [Send.message, h]

theorem Send.message_of_copy {s : Send} {payload : List UInt8} (h : s.payload = some payload)
    (hcmd : s.cmd ≠ blynkCmdResponse) (hlen : s.len ≠ 0) (hfits : s.len.toNat ≤ 512) :
    s.message = { command := s.cmd, id := s.id, len := s.len
                  payload := memcpyZeroed 512 (payload.take s.len.toNat) } := by
  have hsmall : ¬ blynkMaxPayloadLen < s.len.toNat := Nat.not_lt.mpr hfits
  rw [Send.message, h]
  simp only [if_pos (And.intro hcmd hlen), if_neg hsmall]

/-! ## Frames -/

/-- `blynk_serialize`: the bytes it puts to the start of `buf`; it returns their number. -/
def blynkSerialize (bufSz : Nat) (m : Message) : List UInt8 :=
  m.command :: bigEndian m.id ++ bigEndian m.len
    ++ if m.len ≠ 0 ∧ m.command ≠ blynkCmdResponse then
        m.payload.bytes.take (min m.len.toNat (bufSz - 5))
      else []

/-- `sizeof(p->wr_buf)`. -/
def wrBufSize : Nat := blynkMaxPayloadLen

/-- The number of payload bytes that the header of a message announces. -/
def Message.size (m : Message) : Nat := if m.command = blynkCmdResponse then 0 else m.len.toNat

/-- Two messages with the same command, id, length and payload; what the payload array holds
behind the payload does not belong to the message. -/
structure Message.Same (m m' : Message) : Prop where
  command : m'.command = m.command
  id : m'.id = m.id
  len : m'.len = m.len
  payload : m'.payload.bytes.take m.size = m.payload.bytes.take m.size

theorem Message.Same.size {m m' : Message} (h : m.Same m') : m'.size = m.size := by
  rw [Message.size, Message.size, h.command, h.len]

theorem Send.size_message (s : Send) :
    s.message.size = if s.cmd = blynkCmdResponse then 0 else min s.len.toNat 512 := by
  have hclamp : (if blynkMaxPayloadLen < s.len.toNat then 512 else s.len).toNat
      = min s.len.toNat 512 := by
    split_ifs with hbig
    · have hbig' : 512 < s.len.toNat := hbig
      rw [min_eq_right (by omega)]
      rfl
    · exact (min_eq_left (Nat.le_of_not_lt hbig)).symm
  unfold Send.message Message.size
  by_cases hcmd : s.cmd = blynkCmdResponse
  · cases s.payload <;> simp [hcmd]
  · cases hp : s.payload with
    | none =>
      have hlen : s.len = 0 := (s.hnull hp).resolve_left hcmd
      simp [hlen]
    | some payload =>
      by_cases hlen : s.len = 0
      · simp [hlen]
      · simpa [hcmd, hlen] using hclamp

theorem Send.size_message_le (s : Send) : s.message.size ≤ 512 := by
  rw [s.size_message]
  split_ifs
  · exact Nat.zero_le _
  · exact min_le_right _ _

theorem length_blynkSerialize (bufSz : Nat) {m : Message} (hm : m.size ≤ 512) :
    (blynkSerialize bufSz m).length = 5 + min m.size (bufSz - 5) := by
  have hpayload : m.payload.bytes.length = 512 := m.payload.hlen
  unfold blynkSerialize Message.size at *
  by_cases hcmd : m.command = blynkCmdResponse
  · simp [bigEndian, hcmd]
  · rw [if_neg hcmd] at hm
    by_cases hlen : m.len = 0
    · simp [bigEndian, hlen]
    · simp [bigEndian, hcmd, hlen]
      omega

/-! ## A frame that fits -/

/-- The frame that the header of a message announces. -/
def Message.frame (m : Message) (hm : m.size ≤ 512) : Frame where
  command := m.command
  id := m.id
  length := m.len
  body := m.payload.bytes.take m.size
  hbody := by
    have hpayload : m.payload.bytes.length = 512 := m.payload.hlen
    rw [List.length_take, min_eq_left (by omega)]
    rfl

theorem blynkSerialize_eq_encode {m : Message} (hm : m.size ≤ 512) (hfits : m.size ≤ 507) :
    blynkSerialize wrBufSize m = (m.frame hm).encode := by
  unfold blynkSerialize Frame.encode Message.frame wrBufSize blynkMaxPayloadLen
  congr 1
  show _ = m.payload.bytes.take m.size
  unfold Message.size at *
  by_cases hcmd : m.command = blynkCmdResponse
  · simp [hcmd]
  · rw [if_neg hcmd] at hfits ⊢
    by_cases hlen : m.len = 0
    · simp [hlen]
    · rw [if_pos ⟨hlen, hcmd⟩, min_eq_left (by omega)]

theorem Message.same_of_matches {m m' : Message} (hm : m.size ≤ 512)
    (h : (m.frame hm).Matches m') : m.Same m' := by
  have hlen : m'.len.toNat = m.len.toNat := by
    rw [h.len]
    show (if m.command = blynkCmdResponse then m.len.toNat else min m.len.toNat 512) = _
    unfold Message.size at hm
    split_ifs at hm ⊢ with hcmd
    · rfl
    · exact min_eq_left hm
  have hpayload := h.payload
  have hbody : (m.frame hm).body.length = m.size := by
    rw [(m.frame hm).hbody]
    rfl
  rw [hbody, min_eq_left hm, List.take_of_length_le (l := (m.frame hm).body) (by omega)] at hpayload
  exact ⟨h.command, h.id, UInt16.toNat_inj.mp hlen, hpayload⟩

/-- **A frame that fits** is dispatched once, as the message it was made from. -/
theorem frame_parsed {σ : Type} (handleMessage : Client σ → Client σ) {c : Client σ}
    (hparse : c.parse = .cmd) {m : Message} (hfits : m.size ≤ 507) :
    ∃ call, (run (parse handleMessage) c (blynkSerialize wrBufSize m)).2 = [call]
      ∧ m.Same call.message := by
  have hm : m.size ≤ 512 := hfits.trans (by decide)
  rw [blynkSerialize_eq_encode hm hfits]
  obtain ⟨-, call, hcall, hmatches⟩ := run_frame hparse (m.frame hm)
  exact ⟨call, hcall, Message.same_of_matches hm hmatches⟩

/-! ## What the bytes pay for -/

section Weight

variable {σ : Type}

/-- The bytes of the current frame that the parsers have seen. -/
def Client.consumed (c : Client σ) : Nat :=
  match c.parse with
  | .cmd => 0
  | .id => 1 + c.cnt
  | .len => 3 + c.cnt
  | .payload => 5 + c.cnt

/-- The bytes that the frames of these calls had at least. -/
def weight (calls : List Call) : Nat := (calls.map fun call => 5 + call.message.size).sum

theorem weight_dispatch (handleMessage : Client σ → Client σ) (c : Client σ) :
    weight (dispatch handleMessage c).2 + (dispatch handleMessage c).1.consumed
      = 5 + c.message.size := by
  simp [weight, dispatch, Client.consumed]

/-- The client behind a byte of the id, before the count is looked at. -/
def Client.idByte (c : Client σ) (d : UInt8) : Client σ :=
  { c with message := { c.message with id := shiftIn c.message.id d } }.count

def Client.lenByte (c : Client σ) (d : UInt8) : Client σ :=
  { c with message := { c.message with len := shiftIn c.message.len d } }.count

def Client.payloadByte (c : Client σ) (d : UInt8) : Client σ :=
  { c with message := c.message.store c.cnt d }.count

theorem consumed_parseId {c : Client σ} (hparse : c.parse = .id) (d : UInt8) :
    (parseId c d).consumed ≤ c.consumed + 1 := by
  have hcnt : (c.idByte d).cnt ≤ c.cnt + 1 := Nat.mod_le _ _
  by_cases hlast : 2 ≤ (c.idByte d).cnt
  · have hstep : parseId c d = { c.idByte d with cnt := 0, parse := .len } := if_pos hlast
    simp only [hstep, Client.consumed, hparse]
    omega
  · have hstep : parseId c d = c.idByte d := if_neg hlast
    have hid : (c.idByte d).parse = .id := hparse
    simp only [hstep, Client.consumed, hparse, hid]
    omega

theorem weight_parseLen (handleMessage : Client σ → Client σ) {c : Client σ} (hparse : c.parse = .len)
    (d : UInt8) :
    weight (parseLen handleMessage c d).2 + (parseLen handleMessage c d).1.consumed
      ≤ c.consumed + 1 := by
  have hcnt : (c.lenByte d).cnt ≤ c.cnt + 1 := Nat.mod_le _ _
  have hseen : c.consumed = 3 + c.cnt := by simp only [Client.consumed, hparse]
  by_cases hlast : 2 ≤ (c.lenByte d).cnt
  · by_cases hpayload : (c.lenByte d).message.command ≠ blynkCmdResponse
        ∧ (c.lenByte d).message.len ≠ 0
    · have hstep : parseLen handleMessage c d
          = ({ c.lenByte d with cnt := 0, parse := .payload }, []) :=
        (if_pos hlast).trans (if_pos hpayload)
      rw [hseen, hstep]
      simp only [weight, Client.consumed, List.map_nil, List.sum_nil]
      omega
    · -- no payload follows, so the header is all that the message weighs
      have hstep : parseLen handleMessage c d = dispatch handleMessage (c.lenByte d) :=
        (if_pos hlast).trans (if_neg hpayload)
      have hsize : (c.lenByte d).message.size = 0 := by
        unfold Message.size
        split_ifs with hcmd
        · rfl
        · rw [not_and_not_right.mp hpayload hcmd]
          rfl
      rw [hstep, weight_dispatch, hsize, hseen]
      omega
  · have hstep : parseLen handleMessage c d = (c.lenByte d, []) := if_neg hlast
    have hlen : (c.lenByte d).parse = .len := hparse
    rw [hseen, hstep]
    simp only [weight, Client.consumed, hlen, List.map_nil, List.sum_nil]
    omega

theorem weight_parsePayload (handleMessage : Client σ → Client σ) {c : Client σ}
    (hparse : c.parse = .payload) (d : UInt8) :
    weight (parsePayload handleMessage c d).2 + (parsePayload handleMessage c d).1.consumed
      ≤ c.consumed + 1 := by
  have hcnt : (c.payloadByte d).cnt ≤ c.cnt + 1 := Nat.mod_le _ _
  have hseen : c.consumed = 5 + c.cnt := by simp only [Client.consumed, hparse]
  by_cases hlast : (c.payloadByte d).message.len.toNat ≤ (c.payloadByte d).cnt
  · by_cases hbig : blynkMaxPayloadLen < (c.payloadByte d).cnt
    · have hstep : parsePayload handleMessage c d = dispatch handleMessage
          { c.payloadByte d with message := { (c.payloadByte d).message with len := 512 } } :=
        (if_pos hlast).trans (congrArg _ (if_pos hbig))
      have hsize : ({ (c.payloadByte d).message with len := 512 } : Message).size ≤ 512 := by
        unfold Message.size
        split_ifs
        · exact Nat.zero_le _
        · exact le_rfl
      have hbig' : 512 < (c.payloadByte d).cnt := hbig
      rw [hstep, weight_dispatch, hseen]
      exact (Nat.add_le_add_left hsize 5).trans (by omega)
    · have hstep : parsePayload handleMessage c d = dispatch handleMessage (c.payloadByte d) :=
        (if_pos hlast).trans (congrArg _ (if_neg hbig))
      have hsize : (c.payloadByte d).message.size ≤ (c.payloadByte d).message.len.toNat := by
        unfold Message.size
        split_ifs
        · exact Nat.zero_le _
        · exact le_rfl
      rw [hstep, weight_dispatch, hseen]
      omega
  · have hstep : parsePayload handleMessage c d = (c.payloadByte d, []) := if_neg hlast
    have hpayload : (c.payloadByte d).parse = .payload := hparse
    rw [hseen, hstep]
    simp only [weight, Client.consumed, hpayload, List.map_nil, List.sum_nil]
    omega

theorem weight_parse (handleMessage : Client σ → Client σ) (c : Client σ) (d : UInt8) :
    weight (parse handleMessage c d).2 + (parse handleMessage c d).1.consumed
      ≤ c.consumed + 1 := by
  unfold parse
  cases hparse : c.parse with
  | cmd => simp [parseCmd, weight, Client.consumed, hparse]
  | id => simpa [weight] using consumed_parseId hparse d
  | len => exact weight_parseLen handleMessage hparse d
  | payload => exact weight_parsePayload handleMessage hparse d

/-- **No message for free**: the messages of a run, and the part of a frame it ends in, have
no more bytes than the run was fed. Induction on the bytes. -/
theorem weight_run (handleMessage : Client σ → Client σ) (c : Client σ) (ds : List UInt8) :
    weight (run (parse handleMessage) c ds).2 + (run (parse handleMessage) c ds).1.consumed
      ≤ c.consumed + ds.length := by
  induction ds generalizing c with
  | nil => simp [weight]
  | cons d ds ih =>
    have hstep := weight_parse handleMessage c d
    have hrest := ih (parse handleMessage c d).1
    rw [run_cons, List.length_cons]
    simp only [weight, List.map_append, List.sum_append] at hstep hrest ⊢
    omega

theorem weight_of_same {ms : List Message} {calls : List Call}
    (h : List.Forall₂ (fun m call => m.Same call.message) ms calls) :
    weight calls = (ms.map fun m => 5 + m.size).sum := by
  induction h with
  | nil => rfl
  | cons hsame _ ih =>
    simp only [weight, List.map_cons, List.sum_cons] at ih ⊢
    rw [ih, hsame.size]

/-! ## The round trip -/

/-- The parsers give back the messages of a list of sends, and every length field is the
number of payload bytes behind it. -/
def RoundTrip (handleMessage : Client σ → Client σ) (c : Client σ) (sends : List Send) : Prop :=
  List.Forall₂ (fun s call => s.message.Same call.message) sends
      (run (parse handleMessage) c
        (sends.flatMap fun s => blynkSerialize wrBufSize s.message)).2
    ∧ ∀ s ∈ sends, (blynkSerialize wrBufSize s.message).length = 5 + s.message.size

theorem flatMap_serialize_eq_encode {sends : List Send} (hfits : ∀ s ∈ sends, s.message.size ≤ 507) :
    (sends.flatMap fun s => blynkSerialize wrBufSize s.message)
      = (sends.map fun s => s.message.frame s.size_message_le).flatMap Frame.encode := by
  rw [List.flatMap_map]
  refine List.flatMap_congr fun s hs => ?_
  exact blynkSerialize_eq_encode s.size_message_le (hfits s hs)

/-- **The codec round trip.** The messages come back one by one, and no length field lies,
exactly when every frame fits the write buffer. -/
theorem roundTrip_iff (handleMessage : Client σ → Client σ) {c : Client σ} (hparse : c.parse = .cmd)
    (sends : List Send) :
    RoundTrip handleMessage c sends
      ↔ ∀ s ∈ sends, s.cmd ≠ blynkCmdResponse → s.len.toNat ≤ 507 := by
  have hsize : ∀ s : Send, s.message.size ≤ 507
      ↔ (s.cmd ≠ blynkCmdResponse → s.len.toNat ≤ 507) := by
    intro s
    rw [s.size_message]
    split_ifs with hcmd
    · simp [hcmd]
    · simp only [ne_eq, hcmd, not_false_eq_true, true_imp_iff]
      omega
  simp only [← hsize]
  have hlength : ∀ s : Send, (blynkSerialize wrBufSize s.message).length
      = 5 + min s.message.size 507 := fun s => length_blynkSerialize wrBufSize s.size_message_le
  constructor
  · rintro ⟨hsame, -⟩
    -- the messages weigh no more than the bytes of their frames, so no frame was cut
    have hweight := weight_run handleMessage c
      (sends.flatMap fun s => blynkSerialize wrBufSize s.message)
    have hstart : c.consumed = 0 := by simp only [Client.consumed, hparse]
    rw [weight_of_same (List.forall₂_map_left_iff.mpr hsame), List.length_flatMap, hstart,
      List.map_map] at hweight
    by_contra hcut
    simp only [not_forall, not_le] at hcut
    obtain ⟨s, hs, hbig⟩ := hcut
    have hlt := List.sum_lt_sum (l := sends)
      (fun s => (blynkSerialize wrBufSize s.message).length) (fun s => 5 + s.message.size)
      (fun s _ => by simp only [hlength]; omega) ⟨s, hs, by simp only [hlength]; omega⟩
    exact absurd hweight (by simp only [Function.comp_def]; omega)
  · intro hfits
    refine ⟨?_, fun s hs => by rw [hlength, min_eq_left (hfits s hs)]⟩
    obtain ⟨-, hcalls⟩ := run_blocks
      (I := fun c : Client σ => c.parse = .cmd) (fun c fr h => run_frame h fr) hparse
      (sends.map fun s => s.message.frame s.size_message_le)
    rw [flatMap_serialize_eq_encode hfits]
    refine (List.forall₂_map_left_iff.mp hcalls).imp ?_
    exact fun s call h => Message.same_of_matches s.size_message_le h

end Weight

/-- A command with three payload bytes and the response 200 to the id 7. -/
def sampleSends : List Send :=
  [{ cmd := 20, id := 0x0102, len := 3, payload := some [118, 119, 0] },
    { cmd := blynkCmdResponse, id := 7, len := 200 }]

theorem roundTrip_sampleSends : RoundTrip id sampleClient sampleSends :=
  (roundTrip_iff id rfl sampleSends).mpr (by decide)

/-- A command with 510 payload bytes, and a ping behind it. -/
def overfullSends : List Send :=
  [{ cmd := 20, id := 1, len := 510, payload := some (List.replicate 510 49) },
    { cmd := blynkCmdPing, id := 2 }]

/-- The header announces 510 bytes and 507 follow: three bytes of the ping are taken for
payload, and the ping is never seen. -/
theorem overfull_frame_desynchronises : ¬ RoundTrip id sampleClient overfullSends := by
  rintro ⟨hsame, -⟩
  have hlen := hsame.length_eq
  exact absurd hlen (by decide +kernel)

end ControlFan.Blynk
