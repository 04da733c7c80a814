import ControlFan.Blynk.Client

/-!
# Blynk — receive framing

A frame is a command, a big-endian id, a big-endian length and, unless it is a response, as
many payload bytes. The parsers keep no boundary but the one they count to, so they have to
be in step behind every frame, whatever its length and whatever the message held before.

* **`run_payload`** — the payload bytes, stored up to 512 and counted to the last;
* **`run_frame`** — one frame gives one call and ends in `parse_cmd`;
* **`frames_dispatched`** — every list of frames, however it is cut into reads.
-/

namespace ControlFan.Blynk

open CString Machine

/-! ## Frames -/

structure Frame where
  command : UInt8
  id : UInt16
  length : UInt16
  body : List UInt8
  hbody : body.length = if command = blynkCmdResponse then 0 else length.toNat

def bigEndian (x : UInt16) : List UInt8 := [(x >>> 8).toUInt8, x.toUInt8]

def Frame.encode (fr : Frame) : List UInt8 :=
  fr.command :: bigEndian fr.id ++ bigEndian fr.length ++ fr.body

/-- The message that a frame stands for: oversize payloads are cut, the length field of a
response is its status. -/
structure Frame.Matches (fr : Frame) (m : Message) : Prop where
  command : m.command = fr.command
  id : m.id = fr.id
  len : m.len.toNat
    = if fr.command = blynkCmdResponse then fr.length.toNat else min fr.length.toNat 512
  payload : m.payload.bytes.take (min fr.body.length 512) = fr.body.take 512

theorem toNat_shiftIn (x : UInt16) (d : UInt8) :
    (shiftIn x d).toNat = x.toNat % 256 * 256 + d.toNat := by
  have hd : d.toNat < 2 ^ 8 := d.toNat_lt
  have hshift : x.toNat <<< 8 % 2 ^ 16 = (x.toNat % 256) <<< 8 := by
    rw [Nat.shiftLeft_eq, Nat.shiftLeft_eq]
    omega
  calc (shiftIn x d).toNat = x.toNat <<< 8 % 2 ^ 16 ||| d.toNat := by
        simp [shiftIn, UInt16.toNat_or, UInt16.toNat_shiftLeft]
    _ = (x.toNat % 256) <<< 8 + d.toNat := by
        rw [hshift, ← Nat.shiftLeft_add_eq_or_of_lt hd]
    _ = x.toNat % 256 * 256 + d.toNat := by rw [Nat.shiftLeft_eq]

/-- Two bytes replace a word, whatever it was. -/
theorem shiftIn_bigEndian (x y : UInt16) :
    shiftIn (shiftIn x (y >>> 8).toUInt8) y.toUInt8 = y := by
  have hy := y.toNat_lt
  have hhigh : (y >>> 8).toUInt8.toNat = y.toNat / 256 % 256 := by
    simp [Nat.shiftRight_eq_div_pow]
  have hlow : y.toUInt8.toNat = y.toNat % 256 := by simp
  apply UInt16.toNat_inj.mp
  rw [toNat_shiftIn, toNat_shiftIn, hhigh, hlow]
  omega

/-! ## The payload -/

/-- The first bytes of the message's payload are those of `pre`, as far as they fit. -/
def Message.Filled (m : Message) (pre : List UInt8) : Prop :=
  m.payload.bytes.take (min pre.length 512) = pre.take 512

@[simp] theorem Message.store_command (m : Message) (i : Nat) (d : UInt8) :
    (m.store i d).command = m.command := by
  unfold Message.store
  split_ifs <;> rfl

@[simp] theorem Message.store_id (m : Message) (i : Nat) (d : UInt8) :
    (m.store i d).id = m.id := by
  unfold Message.store
  split_ifs <;> rfl

@[simp] theorem Message.store_len (m : Message) (i : Nat) (d : UInt8) :
    (m.store i d).len = m.len := by
  unfold Message.store
  split_ifs <;> rfl

theorem Message.filled_store {m : Message} {pre : List UInt8} (h : m.Filled pre) (d : UInt8) :
    (m.store pre.length d).Filled (pre ++ [d]) := by
  have hlen : m.payload.bytes.length = 512 := m.payload.hlen
  unfold Message.Filled at h ⊢
  unfold Message.store
  rw [List.length_append, List.length_singleton]
  by_cases hroom : pre.length < blynkMaxPayloadLen
  · have hroom' : pre.length < 512 := hroom
    rw [min_eq_left (by omega), List.take_of_length_le (l := pre) (by omega)] at h
    rw [if_pos hroom, min_eq_left (by omega), List.take_of_length_le (l := pre ++ [d]) (by simp; omega)]
    show (m.payload.bytes.set pre.length d).take (pre.length + 1) = pre ++ [d]
    rw [List.set_eq_take_append_cons_drop, if_pos (by omega), h, List.take_append]
    simp
  · -- no room: neither side changes
    have hroom' : 512 ≤ pre.length := Nat.le_of_not_lt hroom
    rw [if_neg hroom, min_eq_right (by omega), List.take_append_of_le_length hroom']
    rwa [min_eq_right hroom'] at h

section Run

variable {σ : Type} {handleMessage : Client σ → Client σ}

/-- **The payload of a frame**, from behind `pre` to its end. Induction on what is left. -/
theorem run_payload (handleMessage : Client σ → Client σ) (pre : List UInt8) {rest : List UInt8}
    (hne : rest ≠ []) {c : Client σ}
    (hparse : c.parse = .payload) (hcnt : c.cnt = pre.length)
    (hlen : c.message.len.toNat = pre.length + rest.length) (hfilled : c.message.Filled pre) :
    ∃ c', run (parse handleMessage) c rest = dispatch handleMessage c'
      ∧ c'.message.command = c.message.command ∧ c'.message.id = c.message.id
      ∧ c'.message.len.toNat = min c.message.len.toNat 512
      ∧ c'.message.Filled (pre ++ rest) := by
  induction rest generalizing pre c with
  | nil => exact absurd rfl hne
  | cons d rest ih =>
    have hlt := c.message.len.toNat_lt
    rw [List.length_cons] at hlen
    have hcnt' : (c.cnt + 1) % 2 ^ 32 = pre.length + 1 := by
      rw [hcnt]
      exact Nat.mod_eq_of_lt (by omega)
    have hfilled' : (c.message.store c.cnt d).Filled (pre ++ [d]) := by
      rw [hcnt]
      exact Message.filled_store hfilled d
    have hstep : parse handleMessage c d = parsePayload handleMessage c d := by
      rw [parse, hparse]
    unfold parsePayload Client.count at hstep
    simp only [Message.store_len, hcnt'] at hstep
    cases rest with
    | nil =>
      -- the last byte: the length is cut to what was stored
      rw [List.length_nil] at hlen
      rw [if_pos (by omega)] at hstep
      rw [run_cons, hstep, run_nil, List.append_nil]
      refine ⟨_, rfl, ?_⟩
      by_cases hbig : blynkMaxPayloadLen < pre.length + 1
      · have hbig' : 512 < pre.length + 1 := hbig
        simp only [hbig, if_true]
        exact ⟨Message.store_command .., Message.store_id .., by rw [min_eq_right (by omega)]; rfl,
          hfilled'⟩
      · have hbig' : ¬ 512 < pre.length + 1 := hbig
        simp only [hbig, if_false]
        refine ⟨Message.store_command .., Message.store_id .., ?_, hfilled'⟩
        rw [Message.store_len, min_eq_left (by omega)]
    | cons e rest =>
      rw [List.length_cons] at hlen
      rw [if_neg (by omega)] at hstep
      obtain ⟨c', hrun, hcmd, hid, hlen', hfill⟩ := ih (pre ++ [d])
        (c := { c with message := c.message.store c.cnt d, cnt := pre.length + 1 }) (by simp)
        hparse (by simp) (by simp; omega) hfilled'
      rw [run_cons, hstep, List.nil_append]
      refine ⟨c', hrun, ?_⟩
      rw [List.append_assoc, List.singleton_append] at hfill
      simpa [hcmd, hid, hlen'] using hfill

/-! ## One frame -/

/-- The client behind the command and the id of a frame. -/
def Client.named (c : Client σ) (command : UInt8) (id : UInt16) : Client σ :=
  { c with message := { c.message with command := command, id := id }, cnt := 0, parse := .len }

theorem run_command_id {c : Client σ} (hparse : c.parse = .cmd) (command : UInt8) (id : UInt16)
    (ds : List UInt8) :
    run (parse handleMessage) c (command :: bigEndian id ++ ds)
      = run (parse handleMessage) (c.named command id) ds := by
  have hid : shiftIn (shiftIn c.message.id (id >>> 8).toUInt8) id.toUInt8 = id :=
    shiftIn_bigEndian _ _
  simp [bigEndian, run_cons, parse, hparse, parseCmd, parseId, Client.count, hid, Client.named]

def Client.sized (c : Client σ) (len : UInt16) : Client σ :=
  { c with message := { c.message with len := len }, cnt := 2 }

theorem run_len {c : Client σ} (hparse : c.parse = .len) (hcnt : c.cnt = 0) (command : UInt8)
    (hcommand : c.message.command = command) (len : UInt16) (ds : List UInt8) :
    run (parse handleMessage) c (bigEndian len ++ ds)
      = if command ≠ blynkCmdResponse ∧ len ≠ 0 then
          run (parse handleMessage) { c.sized len with cnt := 0, parse := .payload } ds
        else
          ((run (parse handleMessage) (dispatch handleMessage (c.sized len)).1 ds).1,
            (dispatch handleMessage (c.sized len)).2
              ++ (run (parse handleMessage) (dispatch handleMessage (c.sized len)).1 ds).2) := by
  have hlen : shiftIn (shiftIn c.message.len (len >>> 8).toUInt8) len.toUInt8 = len :=
    shiftIn_bigEndian _ _
  subst hcommand
  by_cases hpayload : c.message.command ≠ blynkCmdResponse ∧ len ≠ 0
  · rw [if_pos hpayload]
    simp [bigEndian, run_cons, parse, hparse, hcnt, parseLen, Client.count, hlen, hpayload,
      Client.sized]
  · rw [if_neg hpayload]
    simp [bigEndian, run_cons, parse, hparse, hcnt, parseLen, Client.count, hlen, hpayload,
      Client.sized]

theorem Frame.matches_of_dispatch {fr : Frame} {c : Client σ} (h : fr.Matches c.message) :
    (dispatch handleMessage c).1.parse = .cmd
      ∧ ∃ call, (dispatch handleMessage c).2 = [call] ∧ fr.Matches call.message :=
  ⟨rfl, _, rfl, h⟩

/-- **One frame**: one call, with the message of the frame, and the parser is back at its
start. -/
theorem run_frame {c : Client σ} (hparse : c.parse = .cmd) (fr : Frame) :
    (run (parse handleMessage) c fr.encode).1.parse = .cmd
      ∧ ∃ call, (run (parse handleMessage) c fr.encode).2 = [call] ∧ fr.Matches call.message := by
  have hbody := fr.hbody
  rw [Frame.encode, List.append_assoc, run_command_id hparse, run_len rfl rfl fr.command rfl]
  by_cases hpayload : fr.command ≠ blynkCmdResponse ∧ fr.length ≠ 0
  · rw [if_pos hpayload]
    rw [if_neg hpayload.1] at hbody
    have hlength : fr.length.toNat ≠ 0 := fun h => hpayload.2 (UInt16.toNat_inj.mp h)
    obtain ⟨c', hrun, hcmd, hid, hlen, hfilled⟩ := run_payload handleMessage []
      (List.ne_nil_of_length_pos (l := fr.body) (by omega))
      (c := { (c.named fr.command fr.id).sized fr.length with cnt := 0, parse := .payload }) rfl rfl
      (by rw [hbody, List.length_nil, Nat.zero_add]; rfl) rfl
    rw [hrun]
    apply Frame.matches_of_dispatch
    exact ⟨hcmd, hid, by rw [hlen, if_neg hpayload.1]; rfl, hfilled⟩
  · -- a response, or nothing to follow
    have hzero : fr.command ≠ blynkCmdResponse → fr.length.toNat = 0 := by
      intro hresp
      by_contra hne
      exact hpayload ⟨hresp, fun h => hne (by rw [h]; rfl)⟩
    have hnil : fr.body = [] := by
      apply List.eq_nil_of_length_eq_zero
      rw [hbody]
      split_ifs with hresp
      · rfl
      · exact hzero hresp
    rw [if_neg hpayload, hnil, run_nil, List.append_nil]
    apply Frame.matches_of_dispatch
    refine ⟨rfl, rfl, ?_, by rw [hnil]; rfl⟩
    show fr.length.toNat = _
    split_ifs with hresp
    · rfl
    · rw [hzero hresp]
      rfl

/-! ## All reads -/

/-- A byte is stored, or it is the last one of a message and calls `handle_message`. Which of
the two it is, and what the parsers leave for the call, does not depend on `handle_message`. -/
theorem parse_cases (c : Client σ) (d : UInt8) :
    ∃ c' : Client σ,
      ((∀ handleMessage, parse handleMessage c d = (c', []))
        ∨ ∀ handleMessage, parse handleMessage c d = dispatch handleMessage c')
      ∧ c'.state = c.state ∧ c'.rest = c.rest := by
  unfold parse
  cases c.parse with
  | cmd => exact ⟨_, Or.inl fun _ => rfl, rfl, rfl⟩
  | id =>
    simp only [parseId]
    split_ifs
    · exact ⟨_, Or.inl fun _ => rfl, rfl, rfl⟩
    · exact ⟨_, Or.inl fun _ => rfl, rfl, rfl⟩
  | len =>
    simp only [parseLen]
    split_ifs
    · exact ⟨_, Or.inl fun _ => rfl, rfl, rfl⟩
    · exact ⟨_, Or.inr fun _ => rfl, rfl, rfl⟩
    · exact ⟨_, Or.inl fun _ => rfl, rfl, rfl⟩
  | payload =>
    simp only [parsePayload]
    split_ifs
    · exact ⟨_, Or.inr fun _ => rfl, rfl, rfl⟩
    · exact ⟨_, Or.inr fun _ => rfl, rfl, rfl⟩
    · exact ⟨_, Or.inl fun _ => rfl, rfl, rfl⟩

theorem called_of_disconnected (c : Client σ) (d : UInt8) (hc : c.isDisconnected = false)
    (h : (parse handleMessage c d).1.isDisconnected = true) :
    ∃ call ∈ (parse handleMessage c d).2, call.after = .disconnected := by
  unfold Client.isDisconnected at hc h
  obtain ⟨c', hparse | hparse, hstate, -⟩ := parse_cases c d
  · rw [hparse, hstate, hc] at h
    exact absurd h (by decide)
  · rw [hparse] at h ⊢
    exact ⟨_, List.mem_singleton_self _, of_decide_eq_true h⟩

/-- The reads do what the parsers do with all the bytes, unless a call disconnects. -/
theorem readLoop_eq_run {c : Client σ} (hc : c.isDisconnected = false)
    {chunks : List (List UInt8)} (hne : ∀ chunk ∈ chunks, chunk ≠ [])
    (hcalls : ∀ call ∈ (readLoop handleMessage c chunks).2, call.after ≠ .disconnected) :
    readLoop handleMessage c chunks = run (parse handleMessage) c chunks.flatten := by
  induction chunks generalizing c with
  | nil => rfl
  | cons chunk chunks ih =>
    -- an empty read would close the connection
    have hchunk : readChunk handleMessage c chunk
        = runUntil (parse handleMessage) Client.isDisconnected c chunk :=
      if_neg (hne chunk List.mem_cons_self)
    have hquiet : ∀ call ∈ (runUntil (parse handleMessage) Client.isDisconnected c chunk).2,
        ¬ call.after = .disconnected := by
      intro call hmem
      apply hcalls call
      apply mem_runUntil_cons
      rwa [hchunk]
    obtain ⟨hrun, hgo⟩ := runUntil_eq_run called_of_disconnected hc hquiet
    rw [hrun] at hchunk
    unfold readLoop at hcalls ih ⊢
    rw [runUntil, hchunk, hgo, if_neg (by decide)] at hcalls ⊢
    rw [List.flatten_cons, run_append, ih hgo (fun ch hch => hne ch (List.mem_cons_of_mem _ hch))
      fun call hmem => hcalls call (List.mem_append_right _ hmem)]

/-- However the bytes of a list of frames are cut into reads, each frame is handled exactly
once, in order, with its command, id, length and payload, as long as no call disconnects; the
parser ends where it started. -/
theorem frames_dispatched (handleMessage : Client σ → Client σ) {c : Client σ}
    (hparse : c.parse = .cmd) (hc : c.state ≠ .disconnected) (frames : List Frame)
    {chunks : List (List UInt8)} (hne : ∀ chunk ∈ chunks, chunk ≠ [])
    (hcut : chunks.flatten = frames.flatMap Frame.encode)
    (hcalls : ∀ call ∈ (readLoop handleMessage c chunks).2, call.after ≠ .disconnected) :
    (readLoop handleMessage c chunks).1.parse = .cmd
      ∧ List.Forall₂ (fun fr call => fr.Matches call.message) frames
        (readLoop handleMessage c chunks).2 := by
  rw [readLoop_eq_run (decide_eq_false hc) hne hcalls, hcut]
  exact run_blocks (I := fun c : Client σ => c.parse = .cmd) (fun c fr h => run_frame h fr) hparse
    frames

end Run

/-- A client between two frames, with some message left from before. -/
def sampleClient : Client Unit where
  state := .connected
  parse := .cmd
  message := { command := 9, id := 9, len := 9, payload := CArray.zero 512 }
  cnt := 7
  rest := ()

/-- A command with a payload of three bytes, and a response with the status 200. -/
def sampleFrames : List Frame :=
  [{ command := 20, id := 0x0102, length := 3, body := [118, 119, 0], hbody := by decide },
    { command := 0, id := 7, length := 200, body := [], hbody := by decide }]

/-- The sample in three reads, none of which ends where a frame does. -/
theorem frames_dispatched_sampleFrames :
    (readLoop id sampleClient [[20, 1], [2, 0, 3, 118], [119, 0, 0, 0, 7, 0, 200]]).1.parse = .cmd
      ∧ List.Forall₂ (fun fr call => fr.Matches call.message) sampleFrames
        (readLoop id sampleClient [[20, 1], [2, 0, 3, 118], [119, 0, 0, 0, 7, 0, 200]]).2 :=
  frames_dispatched id rfl (by decide) sampleFrames (by decide) (by decide +kernel)
    (by decide +kernel)

end ControlFan.Blynk
