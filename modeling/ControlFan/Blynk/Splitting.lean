import ControlFan.Blynk.Args

/-!
# Blynk — the loops of `parse_args`

`parse_args` runs two loops over one pointer and one count of the bytes that are left. The
inner one walks to the next NUL or to the end, the outer one stores the start of an argument
and steps over its NUL; an argument that ends with the payload gets a NUL behind it, in the
byte that `handle_message` has left free. The dispatcher's model of it, `parseArgs`, takes the
inner loop in one step.

* **`Splitter.parseArgs`** — the loops with every access checked;
* **`rounds_eq`** — they refine `parseArgs`: no access is outside of the array, the arguments
  and the payload are the same, and nothing is written but the byte behind the text;
* **`parse_args_splits`** — the arguments are the first pieces of the text, at their places.
-/

namespace ControlFan.Blynk

open CString CBuffer

/-! ## The loops -/

/-- The variables of `parse_args`: the payload, `p` as an offset, `len`, the table `args` up to
`i`, and the offsets it has written to. -/
structure Splitter (n : Nat) where
  payload : CArray n
  p : Nat := 0
  len : Nat
  args : List Nat := []
  written : List Nat := []
  deriving DecidableEq, Repr

/-- `while (len && *p)`: the pointer and the count behind it; `none` for a read outside of the
array. -/
def skipArg (payload : List UInt8) : (p len : Nat) → Option (Nat × Nat)
  | p, 0 => some (p, 0)
  | p, len + 1 => do
    let b ← payload[p]?
    if b = 0 then some (p, len + 1) else skipArg payload (p + 1) len

variable {n : Nat}

/-- `*p = 0`. -/
def Splitter.terminate (s : Splitter n) : Option (Splitter n) :=
  if s.p < n then
    some { s with payload := s.payload.set s.p 0, written := s.written ++ [s.p] }
  else none

/-- The body of the outer loop. -/
def Splitter.round (s : Splitter n) : Option (Splitter n) := do
  let (p, len) ← skipArg s.payload.bytes s.p s.len
  let s := { s with args := s.args ++ [s.p], p := p, len := len }
  if len ≠ 0 then some { s with p := p + 1, len := len - 1 } else s.terminate

/-- `while (i < sz && len)`, with room for so many more arguments. -/
def Splitter.rounds : (room : Nat) → Splitter n → Option (Splitter n)
  | 0, s => some s
  | room + 1, s => if s.len = 0 then some s else s.round >>= Splitter.rounds room

def Splitter.parseArgs (payload : CArray n) (len sz : Nat) : Option (Splitter n) :=
  Splitter.rounds sz { payload := payload, len := len }

/-! ## The loops refine the splitter -/

theorem argLen_zero (payload : List UInt8) (p : Nat) : argLen payload p 0 = 0 :=
  Nat.le_zero.mp (argLen_le payload p 0)

theorem argLen_succ {payload : List UInt8} {p : Nat} {b : UInt8} (h : payload[p]? = some b)
    (len : Nat) :
    argLen payload p (len + 1) = if b = 0 then 0 else argLen payload (p + 1) len + 1 := by
  obtain ⟨hlt, rfl⟩ := List.getElem?_eq_some_iff.mp h
  unfold argLen
  rw [List.drop_eq_getElem_cons hlt, List.take_succ_cons]
  split_ifs with hzero
  · rw [hzero, cstr_zero_cons]
    rfl
  · rw [cstr_cons_of_ne hzero]
    rfl

/-- The inner loop stops at the first NUL, or at the end. Induction on the bytes left. -/
theorem skipArg_eq {payload : List UInt8} {p len : Nat} (h : p + len ≤ payload.length) :
    skipArg payload p len
      = some (p + argLen payload p len, len - argLen payload p len) := by
  induction len generalizing p with
  | zero =>
    rw [argLen_zero]
    rfl
  | succ len ih =>
    have hlt : p < payload.length := by omega
    have hget : payload[p]? = some payload[p] := List.getElem?_eq_getElem hlt
    rw [skipArg, hget, argLen_succ hget]
    show (if payload[p] = 0 then _ else _) = _
    split_ifs with hzero
    · rfl
    · rw [ih (by omega)]
      congr 2
      · omega
      · omega

section Round

variable {s : Splitter n}

/-- A round that finds a NUL: the next argument starts behind it. -/
theorem round_more (hroom : s.p + s.len < n) (hmore : argLen s.payload.bytes s.p s.len < s.len) :
    s.round
      = some { s with
          args := s.args ++ [s.p]
          p := s.p + argLen s.payload.bytes s.p s.len + 1
          len := s.len - argLen s.payload.bytes s.p s.len - 1 } := by
  have hn := s.payload.hlen
  unfold Splitter.round
  rw [skipArg_eq (by omega)]
  exact if_pos (by omega)

/-- A round that comes to the end: the byte behind the text is written. -/
theorem round_last (hroom : s.p + s.len < n) (hlast : ¬ argLen s.payload.bytes s.p s.len < s.len) :
    s.round
      = some { s with
          payload := s.payload.set (s.p + s.len) 0
          args := s.args ++ [s.p]
          p := s.p + s.len
          len := 0
          written := s.written ++ [s.p + s.len] } := by
  have hn := s.payload.hlen
  have hle := argLen_le s.payload.bytes s.p s.len
  have hk : argLen s.payload.bytes s.p s.len = s.len := by omega
  unfold Splitter.round
  rw [skipArg_eq (by omega), hk, Nat.sub_self]
  show Splitter.terminate { s with args := s.args ++ [s.p], p := s.p + s.len, len := 0 } = _
  exact if_pos hroom

end Round

theorem rounds_of_done {s : Splitter n} (h : s.len = 0) (room : Nat) : s.rounds room = some s := by
  cases room with
  | zero => rfl
  | succ room => exact if_pos h

/-- **The loops refine the splitter.** With one byte of the array behind the text, no access is
outside of it, the arguments and the payload are those of `parseArgs`, and nothing but that
byte is written. Induction on the room in the table. -/
theorem rounds_eq (room : Nat) {s : Splitter n} (hroom : s.p + s.len < n) :
    ∃ s', s.rounds room = some s'
      ∧ s'.args = s.args ++ (Blynk.parseArgs s.payload room s.p s.len).1
      ∧ s'.payload = (Blynk.parseArgs s.payload room s.p s.len).2
      ∧ ∀ w ∈ s'.written, w ∈ s.written ∨ w = s.p + s.len := by
  induction room generalizing s with
  | zero => exact ⟨s, rfl, (List.append_nil _).symm, rfl, fun _ hw => Or.inl hw⟩
  | succ room ih =>
    rcases Nat.eq_zero_or_pos s.len with hzero | hpos
    · refine ⟨s, rounds_of_done hzero _, ?_⟩
      rw [hzero]
      exact ⟨(List.append_nil _).symm, rfl, fun _ hw => Or.inl hw⟩
    · rw [Splitter.rounds, if_neg hpos.ne']
      rcases Nat.lt_or_ge (argLen s.payload.bytes s.p s.len) s.len with hmore | hlast
      · -- the text behind the NUL ends where the whole text does
        have hend : s.p + argLen s.payload.bytes s.p s.len + 1
            + (s.len - argLen s.payload.bytes s.p s.len - 1) = s.p + s.len := by omega
        rw [round_more hroom hmore, parseArgs_more hpos.ne' hmore]
        obtain ⟨s', hs', hargs, hpayload, hwritten⟩ := ih (s := { s with
          args := s.args ++ [s.p]
          p := s.p + argLen s.payload.bytes s.p s.len + 1
          len := s.len - argLen s.payload.bytes s.p s.len - 1 }) (hend.trans_lt hroom)
        refine ⟨s', hs', ?_, hpayload, fun w hw => ?_⟩
        · rw [hargs, List.append_assoc]
          rfl
        · rw [← hend]
          exact hwritten w hw
      · rw [round_last hroom (Nat.not_lt.mpr hlast), parseArgs_last hpos.ne' (Nat.not_lt.mpr hlast)]
        refine ⟨_, rounds_of_done rfl room, rfl, rfl, fun w hw => ?_⟩
        rcases List.mem_append.mp hw with hold | hnew
        · exact Or.inl hold
        · exact Or.inr (List.mem_singleton.mp hnew)

/-! ## Where the pieces are -/

/-- Where pieces with one NUL behind each of them start, the first of them at `p`. -/
def starts : (p : Nat) → List (List UInt8) → List Nat
  | _, [] => []
  | p, t :: ts => p :: starts (p + t.length + 1) ts

theorem length_starts (p : Nat) (ts : List (List UInt8)) : (starts p ts).length = ts.length := by
  induction ts generalizing p with
  | nil => rfl
  | cons t ts ih => exact congrArg Nat.succ (ih _)

/-- The inner loop stops at a NUL if it stops before the end. -/
theorem getElem?_argLen {payload : List UInt8} {p len : Nat}
    (hlen : ((payload.drop p).take len).length = len) (hmore : argLen payload p len < len) :
    payload[p + argLen payload p len]? = some 0 := by
  obtain ⟨t, -, hk, hcut⟩ := text_cut hlen hmore
  have hget : ((payload.drop p).take len)[t.length]? = _ := congrArg (·[t.length]?) hcut
  rw [List.getElem?_take_of_lt (by omega), List.getElem?_drop, List.getElem?_append_right le_rfl,
    Nat.sub_self] at hget
  rw [hk, hget]
  rfl

/-- The arguments are where the pieces of the text start. Induction on the room in the table,
as in `parseArgs_pieces`. -/
theorem parseArgs_starts (payload : CArray n) (sz p len : Nat) (hroom : p + len < n) :
    (parseArgs payload sz p len).1 = (starts p (pieces ((payload.bytes.drop p).take len))).take sz := by
  induction sz generalizing p len with
  | zero => rw [List.take_zero]; rfl
  | succ sz ih =>
    rcases Nat.eq_zero_or_pos len with rfl | hlen
    · rw [List.take_zero, pieces_nil]
      rfl
    · have htext := length_text payload hroom.le
      rcases Nat.lt_or_ge (argLen payload.bytes p len) len with hmore | hlast
      · obtain ⟨t, hno, hk, hcut⟩ := text_cut htext hmore
        rw [parseArgs_more hlen.ne' hmore, hk, ih _ _ (by omega), hcut, pieces_append_zero hno]
        rfl
      · have hno := zero_notMem_text htext hlast
        have hne : (payload.bytes.drop p).take len ≠ [] := List.ne_nil_of_length_pos (by omega)
        rw [parseArgs_last hlen.ne' (Nat.not_lt.mpr hlast), pieces_of_notMem hno hne]
        show [p] = p :: List.take sz []
        rw [List.take_nil]

/-- The payload that is left, besides the byte behind the text. -/
theorem getElem?_parseArgs (payload : CArray n) (sz p len : Nat) {j : Nat} (hj : j ≠ p + len) :
    (parseArgs payload sz p len).2.bytes[j]? = payload.bytes[j]? := by
  rcases parseArgs_payload payload sz p len with hsame | hset
  · rw [hsame]
  · rw [hset]
    exact List.getElem?_set_ne hj.symm

/-- Every argument is in the text and has a NUL, in the text or behind it. Induction on the
room in the table. -/
theorem parseArgs_terminated (payload : CArray n) (sz p len : Nat) (hroom : p + len < n) :
    ∀ q ∈ (parseArgs payload sz p len).1, q < p + len
      ∧ ∃ e, q ≤ e ∧ e ≤ p + len ∧ (parseArgs payload sz p len).2.bytes[e]? = some 0 := by
  have hn := payload.hlen
  induction sz generalizing p len with
  | zero => exact fun _ hq => absurd hq List.not_mem_nil
  | succ sz ih =>
    rcases Nat.eq_zero_or_pos len with rfl | hlen
    · exact fun _ hq => absurd hq List.not_mem_nil
    · intro q hq
      rcases Nat.lt_or_ge (argLen payload.bytes p len) len with hmore | hlast
      · have hzero := getElem?_argLen (length_text payload hroom.le) hmore
        have hend : p + argLen payload.bytes p len + 1 + (len - argLen payload.bytes p len - 1)
            = p + len := by omega
        rw [parseArgs_more hlen.ne' hmore] at hq ⊢
        rcases List.mem_cons.mp hq with rfl | hq
        · -- the NUL that ends the first argument is not the byte that is written
          refine ⟨by omega, q + argLen payload.bytes q len, by omega, by omega, ?_⟩
          rw [getElem?_parseArgs _ _ _ _ (by omega), hzero]
        · have hrest := ih _ _ (hend.trans_lt hroom) q hq
          rw [hend] at hrest
          exact hrest
      · rw [parseArgs_last hlen.ne' (Nat.not_lt.mpr hlast)] at hq ⊢
        obtain rfl := List.mem_singleton.mp hq
        refine ⟨by omega, q + len, by omega, le_rfl, ?_⟩
        exact List.getElem?_set_self (by omega)

/-- A string ends at its first NUL. -/
theorem cstr_ends {m : List UInt8} {q e : Nat} (hq : q ≤ e) (he : m[e]? = some 0) :
    q + (cstr (m.drop q)).length ≤ e ∧ m[q + (cstr (m.drop q)).length]? = some 0 := by
  have hget : (m.drop q)[e - q]? = some 0 := by
    rw [List.getElem?_drop, Nat.add_sub_cancel' hq]
    exact he
  obtain ⟨rest, hrest⟩ := exists_of_zero_mem (List.mem_of_getElem? hget)
  generalize hs : cstr (m.drop q) = t at hrest
  have hno : 0 ∉ t := by
    rw [← hs]
    exact zero_notMem_cstr _
  constructor
  · rcases Nat.lt_or_ge (e - q) t.length with hlt | hge
    · rw [hrest, List.getElem?_append_left hlt] at hget
      exact absurd (List.mem_of_getElem? hget) hno
    · omega
  · rw [← List.getElem?_drop, hrest, List.getElem?_append_right le_rfl, Nat.sub_self]
    rfl

/-! ## The whole function -/

/-- What `parse_args` should leave of a payload with a text of `len` bytes and a table of `sz`
arguments: as many arguments as there are pieces and places for them, each where its piece
starts and each the string of its piece, and no byte changed but the one behind the text. -/
structure Splits (payload : CArray n) (len sz : Nat) (s : Splitter n) : Prop where
  length : s.args.length = min sz (pieces (payload.bytes.take len)).length
  places : s.args = (starts 0 (pieces (payload.bytes.take len))).take sz
  strings : s.args.map (fun q => cstr (s.payload.bytes.drop q))
    = (pieces (payload.bytes.take len)).take sz
  inside : ∀ q ∈ s.args, q < len
  terminated : ∀ q ∈ s.args, q + (cstr (s.payload.bytes.drop q)).length ≤ len
    ∧ s.payload.bytes[q + (cstr (s.payload.bytes.drop q)).length]? = some 0
  written : ∀ w ∈ s.written, w = len
  kept : ∀ j, j ≠ len → s.payload.bytes[j]? = payload.bytes[j]?

/-- **The splitter is exact.** For every payload, every text that leaves a byte of it and every
table, no access of `parse_args` is outside of the payload, and it stores the first pieces of
the text. -/
theorem parse_args_splits (payload : CArray 512) {len : Nat} (hlen : len ≤ 511) (sz : Nat) :
    ∃ s, Splitter.parseArgs payload len sz = some s ∧ Splits payload len sz s := by
  have hroom : 0 + len < 512 := by omega
  obtain ⟨s, hs, hargs, hpayload, hwritten⟩ :=
    rounds_eq sz (s := { payload := payload, len := len }) hroom
  have hstarts := parseArgs_starts payload sz 0 len hroom
  have hstrings := parseArgs_pieces payload sz 0 len hroom
  have hterminated := parseArgs_terminated payload sz 0 len hroom
  rw [List.nil_append] at hargs
  simp only [Nat.zero_add, List.drop_zero] at hstarts hstrings hterminated
  rw [← hargs] at hstarts hstrings hterminated
  rw [← hpayload] at hstrings hterminated
  refine ⟨s, hs, ?_, hstarts, hstrings, fun q hq => (hterminated q hq).1, ?_, ?_, ?_⟩
  · rw [hstarts, List.length_take, length_starts]
  · intro q hq
    obtain ⟨-, e, hq, he, hzero⟩ := hterminated q hq
    obtain ⟨hend, hnul⟩ := cstr_ends hq hzero
    exact ⟨hend.trans he, hnul⟩
  · intro w hw
    rcases hwritten w hw with hold | hnew
    · cases hold
    · exact hnew.trans (Nat.zero_add len)
  · intro j hj
    rw [hpayload]
    exact getElem?_parseArgs payload sz 0 len (by omega)

/-- `a`, an empty argument, `b`, and a byte behind the text that is no NUL. -/
def samplePayload : CArray 512 := (((CArray.zero 512).set 0 97).set 3 98).set 4 99

theorem parse_args_splits_samplePayload :
    ∃ s, Splitter.parseArgs samplePayload 4 32 = some s ∧ s.args = [0, 2, 3]
      ∧ s.args.map (fun q => cstr (s.payload.bytes.drop q)) = [[97], [], [98]] := by
  obtain ⟨s, hs, h⟩ := parse_args_splits samplePayload (show 4 ≤ 511 by decide) 32
  exact ⟨s, hs, h.places.trans (by decide +kernel), h.strings.trans (by decide +kernel)⟩

end ControlFan.Blynk
