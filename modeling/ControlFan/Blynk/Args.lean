import ControlFan.Lib.CBuffer
import ControlFan.Blynk.Codec

/-!
# Blynk — the arguments of a command

`blynk_send_with_callback_v` writes the arguments of a command one behind the other, with a
NUL between two of them; `parse_args` cuts the payload of a received command at its NULs,
going by the length that is left.

* **`blynkSendWithCallbackV`** — the state check and the formatting, up to the call of
  `blynk_send_internal`;
* **`parseArgs`** — the splitter, with **`parseArgs_pieces`**: it gives the pieces between the
  NULs, a last one only if it is not empty;
* **`arguments_roundTrip_iff`** — what was sent is what the handler finds in `args`, unless
  the last argument is empty.
-/

namespace ControlFan.Blynk

open CString CBuffer Machine

/-! ## Formatting -/

inductive BlynkErr where
  | ok
  | invalidOption
  | running
  | notInitialized
  | notConnected
  | notAuthenticated
  | timeout
  | errno
  | gai
  | status
  | closed
  | mem
  deriving DecidableEq, Repr

/-- A variable argument: a `char *`, an integer, or a `double` as the text that `"%.7f"` makes
of it. The arguments have the types that their letters ask for. -/
inductive VaArg where
  | str (s : List UInt8)
  | int (n : Int)
  | double (text : List UInt8)
  deriving DecidableEq, Repr

/-- The letters of the format; any other is skipped, and takes no argument. -/
def formatLetters : List UInt8 :=
  ascii ['s', 'p', 'c', 'b', 'B', '?', 'h', 'H', 'i', 'I', 'l', 'L', 'q', 'Q', 'f', 'd']

/-- The string that `arg` points at: the argument itself, or what `snprintf` left in `buf`. -/
def formatArg (letter : UInt8) : VaArg → List UInt8
  | .str s => cstr s
  | .int n =>
    if letter ∈ ascii ['c', 'b', 'B'] then cstr [UInt8.ofNat (n % 256).toNat]
    else if letter ∈ ascii ['?'] then
      if n ≠ 0 then ascii ['t', 'r', 'u', 'e'] else ascii ['f', 'a', 'l', 's', 'e']
    else ascii (toString n).toList
  | .double text => (cstr text).take 31

/-- The loop over the format, with the bytes written so far. -/
def formatPayload : (fmt : List UInt8) → List VaArg → List UInt8 → List UInt8
  | [], _, payload => payload
  | letter :: fmt, args, payload =>
    if payload.length < blynkMaxPayloadLen then
      if letter ∈ formatLetters then
        let text := (args.head?.map (formatArg letter)).getD []
        let payload := payload ++ text.take (blynkMaxPayloadLen - payload.length)
        -- a separator, but not behind the last letter
        let payload :=
          if payload.length < blynkMaxPayloadLen ∧ fmt ≠ [] then payload ++ [0] else payload
        formatPayload fmt args.tail payload
      else formatPayload fmt args payload
    else payload

/-- A call of `blynk_send`, `blynk_send_with_callback` or `blynk_send_with_callback_v`. -/
structure Command where
  cmd : UInt8
  handler : Option Nat := none
  data : Nat := 0
  fmt : List UInt8
  args : List VaArg
  deriving DecidableEq, Repr

def Command.payload (k : Command) : List UInt8 := formatPayload k.fmt k.args []

theorem Command.hnull (k : Command) :
    (if k.payload = [] then none else some k.payload) = none →
      k.cmd = blynkCmdResponse ∨ UInt16.ofNat k.payload.length = 0 := by
  intro h
  right
  have hnil : k.payload = [] := by
    by_contra hne
    simp [hne] at h
  rw [hnil]
  rfl

/-- `blynk_send_with_callback_v` behind the state check: the arguments of its call of
`blynk_send_internal`. -/
def Command.send (k : Command) : Send where
  cmd := k.cmd
  len := UInt16.ofNat k.payload.length
  payload := if k.payload = [] then none else some k.payload
  handler := k.handler.map .app
  data := k.data
  hnull := k.hnull

/-- `blynk_send_with_callback_v`, in a client whose state is `state`. -/
def blynkSendWithCallbackV (state : BlynkState) (k : Command) : Except BlynkErr Send :=
  if k.cmd = blynkCmdResponse then .error .invalidOption
  else
    match state with
    | .stopped => .error .notConnected
    | .disconnected => .error .notConnected
    | .connected => .error .notAuthenticated
    | .authenticated => .ok k.send

/-! ## Splitting -/

def blynkMaxArgs : Nat := 32

/-- The inner loop of `parse_args`: how far it is to the first NUL, or to the end. -/
def argLen (payload : List UInt8) (p len : Nat) : Nat := (cstr ((payload.drop p).take len)).length

/-- `parse_args` with room for `sz` more arguments and `len` bytes left from `p` on: where the
arguments start, and the payload it leaves. -/
def parseArgs {n : Nat} (payload : CArray n) : (sz p len : Nat) → List Nat × CArray n
  | 0, _, _ => ([], payload)
  | sz + 1, p, len =>
    if len = 0 then ([], payload)
    else
      let k := argLen payload.bytes p len
      if k < len then
        let (args, payload) := parseArgs payload sz (p + k + 1) (len - k - 1)
        (p :: args, payload)
      -- the last argument ends with the payload and is terminated behind it
      else ([p], payload.set (p + k) 0)

/-- The arguments that `handle_message` finds in a command, as strings. -/
def Message.args (m : Message) : List (List UInt8) :=
  if m.len = 0 then []
  else
    -- one byte is left for the last NUL
    let len := if m.len.toNat < blynkMaxPayloadLen then m.len.toNat else blynkMaxPayloadLen - 1
    let (args, payload) := parseArgs m.payload blynkMaxArgs 0 len
    args.map fun p => cstr (payload.bytes.drop p)

/-- The pieces of a text between its NULs. A text that ends with a NUL, or has no bytes at
all, ends with no piece. -/
def pieces (text : List UInt8) : List (List UInt8) :=
  if (text.splitOn 0).getLast? = some [] then (text.splitOn 0).dropLast else text.splitOn 0

theorem pieces_nil : pieces [] = [] := rfl

theorem pieces_of_notMem {t : List UInt8} (h : 0 ∉ t) (hne : t ≠ []) : pieces t = [t] := by
  rw [pieces, List.splitOn_eq_singleton h, List.getLast?_singleton, if_neg (by simpa using hne)]

theorem pieces_append_zero {t : List UInt8} (h : 0 ∉ t) (rest : List UInt8) :
    pieces (t ++ 0 :: rest) = t :: pieces rest := by
  have hsplit : (t ++ 0 :: rest).splitOn 0 = t :: rest.splitOn 0 :=
    List.splitOn_append_cons_self_of_not_mem h rest
  have hne : rest.splitOn 0 ≠ [] := List.splitOn_ne_nil 0 rest
  unfold pieces
  rw [hsplit, List.getLast?_cons_of_ne_nil hne, List.dropLast_cons_of_ne_nil hne]
  split_ifs <;> rfl

section ParseArgs

variable {n : Nat} {payload : CArray n} {sz p len : Nat}

theorem argLen_le (payload : List UInt8) (p len : Nat) : argLen payload p len ≤ len :=
  (List.takeWhile_prefix _).length_le.trans (List.length_take_le _ _)

theorem parseArgs_more (hlen : len ≠ 0) (hmore : argLen payload.bytes p len < len) :
    parseArgs payload (sz + 1) p len
      = (p :: (parseArgs payload sz (p + argLen payload.bytes p len + 1)
            (len - argLen payload.bytes p len - 1)).1,
          (parseArgs payload sz (p + argLen payload.bytes p len + 1)
            (len - argLen payload.bytes p len - 1)).2) :=
  (if_neg hlen).trans (if_pos hmore)

theorem parseArgs_last (hlen : len ≠ 0) (hlast : ¬ argLen payload.bytes p len < len) :
    parseArgs payload (sz + 1) p len = ([p], payload.set (p + len) 0) := by
  have hk : argLen payload.bytes p len = len := by
    have hle := argLen_le payload.bytes p len
    omega
  rw [show parseArgs payload (sz + 1) p len = ([p], payload.set (p + argLen payload.bytes p len) 0)
    from (if_neg hlen).trans (if_neg hlast), hk]

/-- The only byte that `parse_args` writes is the one behind the payload. -/
theorem parseArgs_payload (payload : CArray n) (sz p len : Nat) :
    (parseArgs payload sz p len).2 = payload
      ∨ (parseArgs payload sz p len).2 = payload.set (p + len) 0 := by
  induction sz generalizing p len with
  | zero => exact Or.inl rfl
  | succ sz ih =>
    rcases Nat.eq_zero_or_pos len with rfl | hlen
    · exact Or.inl rfl
    · rcases Nat.lt_or_ge (argLen payload.bytes p len) len with hmore | hlast
      · rw [parseArgs_more hlen.ne' hmore, show p + len
          = p + argLen payload.bytes p len + 1 + (len - argLen payload.bytes p len - 1) from by omega]
        exact ih _ _
      · rw [parseArgs_last hlen.ne' (Nat.not_lt.mpr hlast)]
        exact Or.inr rfl

/-- What `parse_args` leaves of the text it was given. -/
theorem text_parseArgs {p' len' : Nat} (payload : CArray n) (sz : Nat) (hend : p' + len' = p + len) :
    ((parseArgs payload sz p' len').2.bytes.drop p).take len = (payload.bytes.drop p).take len := by
  rcases parseArgs_payload payload sz p' len' with hsame | hset
  · rw [hsame]
  · rw [hset, hend]
    show ((payload.bytes.set (p + len) 0).drop p).take len = _
    rw [List.drop_set, if_neg (by omega), Nat.add_sub_cancel_left, List.take_set_of_le le_rfl]

/-- One round on a text with a NUL: the piece in front of the NUL, and the text behind it. -/
theorem text_cut {payload : List UInt8} (hlen : ((payload.drop p).take len).length = len)
    (hmore : argLen payload p len < len) :
    ∃ t, 0 ∉ t ∧ argLen payload p len = t.length
      ∧ (payload.drop p).take len
        = t ++ 0 :: (payload.drop (p + t.length + 1)).take (len - t.length - 1) := by
  have hzero : 0 ∈ (payload.drop p).take len := by
    by_contra hno
    unfold argLen at hmore
    rw [cstr_eq_self hno] at hmore
    omega
  obtain ⟨rest, hrest⟩ := exists_of_zero_mem hzero
  refine ⟨cstr ((payload.drop p).take len), zero_notMem_cstr _, rfl, ?_⟩
  generalize cstr ((payload.drop p).take len) = t at hrest
  have hdrop : ((payload.drop p).take len).drop (t.length + 1) = rest := by
    rw [hrest, List.drop_append, List.drop_of_length_le (by omega), Nat.add_sub_cancel_left]
    rfl
  rw [List.drop_take, List.drop_drop] at hdrop
  rw [hrest, Nat.add_assoc, Nat.sub_sub, hdrop]

theorem length_text (payload : CArray n) (hroom : p + len ≤ n) :
    ((payload.bytes.drop p).take len).length = len := by
  rw [List.length_take, List.length_drop, payload.hlen]
  omega

/-- A text that the inner loop walks to its end has no NUL. -/
theorem zero_notMem_text {payload : List UInt8} (hlen : ((payload.drop p).take len).length = len)
    (hlast : len ≤ argLen payload p len) : 0 ∉ (payload.drop p).take len := by
  intro hzero
  obtain ⟨rest, hrest⟩ := exists_of_zero_mem hzero
  have hlength := congrArg List.length hrest
  unfold argLen at hlast
  rw [hlen, List.length_append, List.length_cons] at hlength
  omega

/-- **The splitter.** The arguments are the first pieces of the text, as strings of the payload
that is left. Induction on the room in `args`; each round takes one piece off the text. -/
theorem parseArgs_pieces (payload : CArray n) (sz p len : Nat) (hroom : p + len < n) :
    (parseArgs payload sz p len).1.map (fun q => cstr ((parseArgs payload sz p len).2.bytes.drop q))
      = (pieces ((payload.bytes.drop p).take len)).take sz := by
  have hn : payload.bytes.length = n := payload.hlen
  induction sz generalizing p len with
  | zero => rw [List.take_zero]; rfl
  | succ sz ih =>
    rcases Nat.eq_zero_or_pos len with rfl | hlen
    · rw [List.take_zero, pieces_nil, List.take_nil]
      rfl
    · have htext := length_text payload hroom.le
      have hkeep : ((parseArgs payload (sz + 1) p len).2.bytes.drop p).take len
          = (payload.bytes.drop p).take len := text_parseArgs payload (sz + 1) rfl
      rcases Nat.lt_or_ge (argLen payload.bytes p len) len with hmore | hlast
      · obtain ⟨t, hno, hk, hcut⟩ := text_cut htext hmore
        have hhead : cstr ((parseArgs payload (sz + 1) p len).2.bytes.drop p) = t := by
          rw [← List.take_append_drop len ((parseArgs payload (sz + 1) p len).2.bytes.drop p), hkeep,
            hcut, List.append_assoc, List.cons_append, cstr_append_zero hno]
        rw [hcut, pieces_append_zero hno, List.take_succ_cons, ← ih _ _ (by omega)]
        rw [parseArgs_more hlen.ne' hmore, hk] at hhead ⊢
        rw [List.map_cons, hhead]
      · -- no NUL: the text is the last piece, and the byte behind it is written
        have hno := zero_notMem_text htext hlast
        have hne : (payload.bytes.drop p).take len ≠ [] :=
          List.ne_nil_of_length_pos (by omega)
        rw [parseArgs_last hlen.ne' (Nat.not_lt.mpr hlast), pieces_of_notMem hno hne]
        rw [List.take_succ_cons, List.take_nil]
        show [cstr ((payload.bytes.set (p + len) 0).drop p)] = [(payload.bytes.drop p).take len]
        rw [List.drop_set, if_neg (by omega), Nat.add_sub_cancel_left,
          List.set_eq_take_append_cons_drop, if_pos (by rw [List.length_drop]; omega),
          cstr_append_zero hno]

end ParseArgs

theorem Message.args_eq (m : Message) :
    m.args = (pieces (m.payload.bytes.take (min m.len.toNat 511))).take blynkMaxArgs := by
  have hlen : (if m.len.toNat < blynkMaxPayloadLen then m.len.toNat else blynkMaxPayloadLen - 1)
      = min m.len.toNat 511 := by
    unfold blynkMaxPayloadLen
    split_ifs <;> omega
  unfold Message.args
  rw [hlen]
  split_ifs with hzero
  · rw [hzero]
    rfl
  · exact parseArgs_pieces m.payload blynkMaxArgs 0 (min m.len.toNat 511)
      (by unfold blynkMaxPayloadLen; omega)

/-! ## The round trip -/

def stringFormat (n : Nat) : List UInt8 := ascii (List.replicate n 's')

theorem stringFormat_succ (n : Nat) : stringFormat (n + 1) = 115 :: stringFormat n := rfl

theorem formatPayload_string {s : List UInt8} (hnul : 0 ∉ s) {payload : List UInt8}
    (hfits : payload.length + s.length < blynkMaxPayloadLen) (fmt : List UInt8)
    (args : List VaArg) :
    formatPayload (115 :: fmt) (.str s :: args) payload
      = formatPayload fmt args (if fmt ≠ [] then payload ++ s ++ [0] else payload ++ s) := by
  have htext : (cstr s).take (blynkMaxPayloadLen - payload.length) = s := by
    rw [cstr_eq_self hnul, List.take_of_length_le (by omega)]
  have hroom : (payload ++ s).length < blynkMaxPayloadLen := by rwa [List.length_append]
  rw [formatPayload, if_pos (by omega), if_pos (by decide)]
  simp only [List.head?_cons, Option.map_some, Option.getD_some, formatArg, htext, List.tail_cons,
    hroom, true_and]

/-- The strings with a NUL between two of them, behind what was written before. Induction on
the strings. -/
theorem formatPayload_strings {strs : List (List UInt8)} (hnul : ∀ s ∈ strs, 0 ∉ s)
    (payload : List UInt8)
    (hfits : payload.length + ([0].intercalate strs).length < blynkMaxPayloadLen) :
    formatPayload (stringFormat strs.length) (strs.map .str) payload
      = payload ++ [0].intercalate strs := by
  induction strs generalizing payload with
  | nil => rw [List.intercalate_nil, List.append_nil]; rfl
  | cons s strs ih =>
    obtain ⟨hs, hstrs⟩ := List.forall_mem_cons.mp hnul
    rw [List.length_cons, stringFormat_succ, List.map_cons]
    cases strs with
    | nil =>
      rw [List.intercalate_singleton] at hfits ⊢
      rw [formatPayload_string hs hfits]
      rfl
    | cons s' strs =>
      rw [List.intercalate_cons_cons, List.length_append, List.length_append,
        List.length_singleton] at hfits
      rw [formatPayload_string hs (by omega), if_pos (by simp [stringFormat_succ]), ih hstrs,
        List.intercalate_cons_cons, List.append_assoc, List.append_assoc, List.append_assoc]
      rw [List.length_append, List.length_append, List.length_singleton]
      omega

/-- A command with string arguments only. -/
def stringCommand (cmd : UInt8) (strs : List (List UInt8)) : Command where
  cmd := cmd
  fmt := stringFormat strs.length
  args := strs.map .str

section Strings

variable {strs : List (List UInt8)} (hnul : ∀ s ∈ strs, 0 ∉ s)
  (hfits : ([0].intercalate strs).length ≤ 507)

include hnul hfits

theorem payload_stringCommand (cmd : UInt8) :
    (stringCommand cmd strs).payload = [0].intercalate strs := by
  have hfits' : ([] : List UInt8).length + ([0].intercalate strs).length < blynkMaxPayloadLen := by
    unfold blynkMaxPayloadLen
    rw [List.length_nil]
    omega
  exact (formatPayload_strings hnul [] hfits').trans (List.nil_append _)

/-- The queued message announces and holds exactly the encoded arguments. -/
theorem message_stringCommand :
    (stringCommand blynkCmdHardware strs).send.message.command = blynkCmdHardware
      ∧ (stringCommand blynkCmdHardware strs).send.message.len.toNat
        = ([0].intercalate strs).length
      ∧ (stringCommand blynkCmdHardware strs).send.message.payload.bytes.take
          ([0].intercalate strs).length = [0].intercalate strs := by
  have hpayload := payload_stringCommand hnul hfits blynkCmdHardware
  have hcmd : (stringCommand blynkCmdHardware strs).send.cmd = blynkCmdHardware := rfl
  have hlen : (UInt16.ofNat ([0].intercalate strs).length).toNat = ([0].intercalate strs).length :=
    UInt16.toNat_ofNat_of_lt' (by unfold UInt16.size; omega)
  have hslen : (stringCommand blynkCmdHardware strs).send.len
      = UInt16.ofNat ([0].intercalate strs).length := by
    show UInt16.ofNat (stringCommand blynkCmdHardware strs).payload.length = _
    rw [hpayload]
  have hsome : (stringCommand blynkCmdHardware strs).send.payload
      = if [0].intercalate strs = [] then none else some ([0].intercalate strs) :=
    congrArg (fun text => if text = [] then none else some text) hpayload
  generalize (stringCommand blynkCmdHardware strs).send = s at *
  generalize [0].intercalate strs = text at *
  cases htext : text with
  | nil =>
    rw [htext, if_pos rfl] at hsome
    rw [htext] at hslen
    rw [s.message_of_null hsome]
    exact ⟨hcmd, by rw [hslen]; rfl, rfl⟩
  | cons b rest =>
    rw [← htext]
    rw [if_neg (by simp [htext])] at hsome
    have hne : s.len ≠ 0 := by
      intro h0
      rw [← hslen, h0] at hlen
      simp [htext] at hlen
    rw [← hslen] at hlen
    rw [s.message_of_copy hsome (by rw [hcmd]; decide) hne (by omega), hlen]
    refine ⟨hcmd, rfl, ?_⟩
    show ((text.take text.length ++ List.replicate 512 0).take 512).take text.length = text
    rw [List.take_take, min_eq_left (by omega), List.take_length, List.take_append_of_le_length le_rfl,
      List.take_length]

end Strings

/-- The arguments of a command with strings only arrive as they were sent: the command passes
the state check of an authenticated client, it is serialised under some id, and the receiver
finds the strings in `args`. -/
def ArgumentsArrive {σ : Type} (handleMessage : Client σ → Client σ) (c : Client σ) (id : UInt16)
    (strs : List (List UInt8)) : Prop :=
  ∃ s call,
    blynkSendWithCallbackV .authenticated (stringCommand blynkCmdHardware strs) = .ok s
      ∧ (run (parse handleMessage) c
          (blynkSerialize wrBufSize { s.message with id := id })).2 = [call]
      ∧ call.message.args = strs

/-- **The argument round trip.** One to 32 strings that fit the frame arrive exactly when the
last of them is not empty. -/
theorem arguments_roundTrip_iff {σ : Type} (handleMessage : Client σ → Client σ) {c : Client σ}
    (hparse : c.parse = .cmd) (id : UInt16) {strs : List (List UInt8)} (hne : strs ≠ [])
    (hmax : strs.length ≤ 32) (hnul : ∀ s ∈ strs, 0 ∉ s)
    (hfits : ([0].intercalate strs).length ≤ 507) :
    ArgumentsArrive handleMessage c id strs ↔ strs.getLast hne ≠ [] := by
  obtain ⟨hcmd, hlen, hbytes⟩ := message_stringCommand hnul hfits
  generalize hm : (stringCommand blynkCmdHardware strs).send.message = m at *
  have hsize : ({ m with id := id } : Message).size = ([0].intercalate strs).length := by
    show (if m.command = blynkCmdResponse then 0 else m.len.toNat) = _
    rw [hcmd, hlen]
    rfl
  obtain ⟨call, hcall, hsame⟩ := frame_parsed handleMessage hparse (m := { m with id := id })
    (by rw [hsize]; exact hfits)
  have hpayload := hsame.payload
  rw [hsize, show ({ m with id := id } : Message).payload = m.payload from rfl, hbytes] at hpayload
  -- what the receiver finds: the pieces of the encoding
  have hargs : call.message.args = (pieces ([0].intercalate strs)).take blynkMaxArgs := by
    rw [call.message.args_eq, hsame.len, show ({ m with id := id } : Message).len = m.len from rfl,
      hlen, min_eq_left (by omega), hpayload]
  have hsplit : ([0].intercalate strs).splitOn 0 = strs := List.splitOn_intercalate 0 hnul hne
  have hpieces : call.message.args = if strs.getLast hne = [] then strs.dropLast else strs := by
    rw [hargs]
    simp only [pieces, hsplit, List.getLast?_eq_some_getLast hne, Option.some_inj]
    refine List.take_of_length_le ?_
    split_ifs
    · rw [List.length_dropLast]
      exact (Nat.sub_le _ _).trans hmax
    · exact hmax
  have hdropLast : strs.dropLast ≠ strs := by
    intro h
    have hlength := congrArg List.length h
    have hpos := List.length_pos_iff.mpr hne
    rw [List.length_dropLast] at hlength
    omega
  constructor
  · rintro ⟨s, call', hsend, hcall', hargs'⟩ hlast
    cases hsend
    rw [hm, hcall] at hcall'
    cases hcall'
    rw [hpieces, if_pos hlast] at hargs'
    exact hdropLast hargs'
  · intro hlast
    refine ⟨_, call, rfl, by rw [hm, hcall], ?_⟩
    rw [hpieces, if_neg hlast]

/-- The three arguments of a virtual write, the second of them empty. -/
def sampleArguments : List (List UInt8) := [ascii ['v', 'w'], [], ascii ['2', '5', '5']]

theorem arguments_roundTrip_sampleArguments : ArgumentsArrive id sampleClient 1 sampleArguments :=
  (arguments_roundTrip_iff id rfl 1 (by decide) (by decide) (by decide)
    (by decide)).mpr (by decide)

/-- The last argument is empty, and the receiver does not see it. -/
theorem last_empty_argument_lost :
    ¬ ArgumentsArrive id sampleClient 1 [ascii ['v', 'w'], ascii ['1'], []] := by
  rintro ⟨s, call, hsend, hcall, hargs⟩
  cases hsend
  have hfound := congrArg (List.map fun call => call.message.args) hcall
  rw [List.map_cons, List.map_nil, hargs] at hfound
  exact absurd hfound (by decide +kernel)

end ControlFan.Blynk
