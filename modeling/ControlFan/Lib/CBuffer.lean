import Mathlib.Data.List.TakeWhile
import Mathlib.Data.List.Infix
import ControlFan.Lib.CString

/-!
# C strings in bounded memory

The pointers of `Lib.CString`, for code that may run off the end of an array: a `char *` is
the bytes from the pointer to the end of its array, and a function that has to look behind
that end has no result. `none` is always such an access.

* **`strlen`**, **`strstr`**, **`strcpy`**, **`strncpy`** — with the lemmas that read them on a terminated
  string;
* **`strtok`** — one token at a time; **`tokens_induction`** follows it through a text. The
  delimiter behind a token is overwritten, what lies behind it is not touched.
-/

namespace CBuffer

open CString

/-! ## Strings -/

def strlen (s : List UInt8) : Option Nat := if 0 ∈ s then some (cstr s).length else none

/-- `strstr(s, needle) != NULL`. -/
def strstr (needle : List UInt8) : List UInt8 → Option Bool
  | [] => none
  | c :: s =>
    if needle <+: cstr (c :: s) then some true
    else if c = 0 then some false
    else strstr needle s

theorem length_strcpy {n : Nat} (dst : CArray n) {src : List UInt8} (h : (cstr src).length < n) :
    (cstr src ++ 0 :: dst.bytes.drop ((cstr src).length + 1)).length = n := by
  have hdst := dst.hlen
  simp only [List.length_append, List.length_cons, List.length_drop]
  omega

/-- `strcpy(dst, src)`: both the source and the copy have to fit their arrays. -/
def strcpy {n : Nat} (dst : CArray n) (src : List UInt8) : Option (CArray n) :=
  if h : 0 ∈ src ∧ (cstr src).length < n then
    some ⟨cstr src ++ 0 :: dst.bytes.drop ((cstr src).length + 1), length_strcpy dst h.2⟩
  else none

theorem cstr_append_zero {t : List UInt8} (h : 0 ∉ t) (rest : List UInt8) :
    cstr (t ++ 0 :: rest) = t := by
  rw [cstr_append h, cstr_zero_cons, List.append_nil]

theorem exists_of_zero_mem {s : List UInt8} (h : 0 ∈ s) : ∃ rest, s = cstr s ++ 0 :: rest := by
  induction s with
  | nil => simp at h
  | cons c s ih =>
    by_cases hc : c = 0
    · exact ⟨s, by rw [hc, cstr_zero_cons, List.nil_append]⟩
    · have hs : 0 ∈ s := (List.mem_cons.mp h).resolve_left (Ne.symm hc)
      obtain ⟨rest, hrest⟩ := ih hs
      refine ⟨rest, ?_⟩
      rw [cstr_cons_of_ne hc, List.cons_append, ← hrest]

theorem strlen_eq_some_iff {s : List UInt8} {n : Nat} :
    strlen s = some n ↔ 0 ∈ s ∧ n = (cstr s).length := by
  unfold strlen
  split_ifs with h
  · simp [h, eq_comm]
  · simp [h]

/-- On a terminated string `strstr` finds exactly the infixes of its text. -/
theorem strstr_append_zero {needle t : List UInt8} (hne : needle ≠ []) (h : 0 ∉ t)
    (rest : List UInt8) : strstr needle (t ++ 0 :: rest) = some (decide (needle <:+: t)) := by
  induction t with
  | nil =>
    rw [List.nil_append, strstr, cstr_zero_cons, if_neg (by simpa using hne), if_pos rfl]
    simp [hne]
  | cons c t ih =>
    rw [List.mem_cons, not_or] at h
    have hcstr : cstr (c :: (t ++ 0 :: rest)) = c :: t := by
      rw [cstr_cons_of_ne (Ne.symm h.1), cstr_append_zero h.2]
    rw [List.cons_append, strstr, hcstr]
    by_cases hpre : needle <+: c :: t
    · rw [if_pos hpre, decide_eq_true hpre.isInfix]
    · have hiff : needle <:+: c :: t ↔ needle <:+: t := by
        rw [List.infix_cons_iff]
        exact or_iff_right hpre
      rw [if_neg hpre, if_neg (Ne.symm h.1), ih h.2, decide_eq_decide.mpr hiff]

theorem strcpy_isSome_iff {n : Nat} (dst : CArray n) (src : List UInt8) :
    (strcpy dst src).isSome ↔ 0 ∈ src ∧ (cstr src).length < n := by
  unfold strcpy
  split_ifs with h
  · simp [h]
  · simp [h]

theorem strcpy_eq_some {n : Nat} {dst dst' : CArray n} {src : List UInt8}
    (h : strcpy dst src = some dst') : cstr dst'.bytes = cstr src ∧ 0 ∈ dst'.bytes := by
  unfold strcpy at h
  split_ifs at h with hfits
  obtain rfl := Option.some.inj h
  exact ⟨cstr_append_zero (zero_notMem_cstr src) _, by simp⟩

theorem strcpy_append_zero {n : Nat} (dst : CArray n) {t : List UInt8} (h : 0 ∉ t)
    (hlen : t.length < n) (rest : List UInt8) :
    ∃ dst', strcpy dst (t ++ 0 :: rest) = some dst' ∧ cstr dst'.bytes = t ∧ 0 ∈ dst'.bytes := by
  have hcstr := cstr_append_zero h rest
  have hfits : 0 ∈ t ++ 0 :: rest ∧ (cstr (t ++ 0 :: rest)).length < n := by
    rw [hcstr]
    exact ⟨by simp, hlen⟩
  obtain ⟨dst', hdst⟩ : ∃ dst', strcpy dst (t ++ 0 :: rest) = some dst' := by
    rw [strcpy, dif_pos hfits]
    exact ⟨_, rfl⟩
  obtain ⟨htext, hnul⟩ := strcpy_eq_some hdst
  exact ⟨dst', hdst, htext.trans hcstr, hnul⟩

theorem length_strncpyTo {n k : Nat} (dst : CArray n) (src : List UInt8) (h : k ≤ n) :
    ((cstr src ++ List.replicate k 0).take k ++ dst.bytes.drop k).length = n := by
  have hdst := dst.hlen
  simp only [List.length_append, List.length_take, List.length_drop, List.length_replicate]
  omega

/-- `strncpy(dst, src, k)`: `k` bytes are written, a NUL only if the string is shorter. -/
def strncpy {n : Nat} (dst : CArray n) (src : List UInt8) (k : Nat) : Option (CArray n) :=
  if h : k ≤ n ∧ (0 ∈ src ∨ k ≤ src.length) then
    some ⟨(cstr src ++ List.replicate k 0).take k ++ dst.bytes.drop k, length_strncpyTo dst src h.1⟩
  else none

theorem strncpy_isSome_iff {n : Nat} (dst : CArray n) {src : List UInt8} (hnul : 0 ∈ src) (k : Nat) :
    (strncpy dst src k).isSome ↔ k ≤ n := by
  unfold strncpy
  split_ifs with h
  · exact iff_of_true rfl h.1
  · exact iff_of_false Bool.false_ne_true fun hk => h ⟨hk, Or.inl hnul⟩

/-- A string copied with its own length: the rest of the array stays. -/
theorem strncpy_append_zero {n : Nat} (dst : CArray n) {t : List UInt8} (h : 0 ∉ t)
    (hlen : t.length ≤ n) (rest : List UInt8) :
    ∃ dst', strncpy dst (t ++ 0 :: rest) t.length = some dst'
      ∧ dst'.bytes = t ++ dst.bytes.drop t.length := by
  refine ⟨_, dif_pos ⟨hlen, Or.inl (List.mem_append_right _ List.mem_cons_self)⟩, ?_⟩
  show (cstr (t ++ 0 :: rest) ++ List.replicate _ 0).take _ ++ _ = _
  rw [cstr_append_zero h, List.take_left]

theorem length_lt_of_zero_mem {n : Nat} {a : CArray n} (h : 0 ∈ a.bytes) :
    (cstr a.bytes).length < n := by
  obtain ⟨rest, hrest⟩ := exists_of_zero_mem h
  have hlen := a.hlen
  rw [hrest, List.length_append, List.length_cons] at hlen
  omega

/-! ## Separators -/

/-- A word without the separator lies on one side of it. -/
theorem infix_append_sep {w a b : List UInt8} {c : UInt8} (hc : c ∉ w) :
    w <:+: a ++ c :: b ↔ w <:+: a ∨ w <:+: b := by
  constructor
  · rintro ⟨x, y, h⟩
    rw [List.append_assoc, List.append_eq_append_iff] at h
    rcases h with ⟨a', rfl, h⟩ | ⟨x', rfl, h⟩
    · -- the word starts in `a`, and cannot cross the separator
      rcases List.append_eq_append_iff.mp h with ⟨z, rfl, -⟩ | ⟨z, rfl, hz⟩
      · exact Or.inl ⟨x, z, List.append_assoc ..⟩
      · cases z with
        | nil => exact Or.inl ⟨x, [], by simp⟩
        | cons d z =>
          rw [List.cons_append] at hz
          exact absurd (by simp [(List.cons.inj hz).1]) hc
    · cases x' with
      | nil =>
        cases w with
        | nil => exact Or.inl (List.nil_infix)
        | cons d w =>
          rw [List.nil_append, List.cons_append] at h
          exact absurd (by simp [(List.cons.inj h).1]) hc
      | cons d x' =>
        rw [List.cons_append] at h
        exact Or.inr ⟨x', y, by rw [List.append_assoc]; exact (List.cons.inj h).2.symm⟩
  · rintro (⟨x, y, rfl⟩ | ⟨x, y, rfl⟩)
    · exact ⟨x, y ++ c :: b, by simp⟩
    · exact ⟨a ++ c :: x, y, by simp⟩

/-- What ends with a separator, and has none in front of it, is a suffix of anything else
that follows one. -/
theorem suffix_of_sep {a b a' b' : List UInt8} {c : UInt8}
    (h : a ++ c :: b = a' ++ c :: (b' ++ [c])) (hc : c ∉ b') (hb : b ≠ []) : b' ++ [c] <:+ b := by
  rcases List.append_eq_append_iff.mp h with ⟨z, rfl, hz⟩ | ⟨z, rfl, hz⟩
  · cases z with
    | nil => rw [(List.cons.inj hz).2]
    | cons d z =>
      rw [(List.cons.inj hz).2]
      exact ⟨z ++ [c], by simp⟩
  · cases z with
    | nil => rw [← (List.cons.inj hz).2]
    | cons d z =>
      -- `b` starts inside `b'`, behind a separator
      have hin : b' ++ [c] = z ++ c :: b := (List.cons.inj hz).2
      obtain ⟨b₀, e, rfl⟩ : ∃ b₀ e, b = b₀ ++ [e] := ⟨_, _, (List.dropLast_append_getLast hb).symm⟩
      rw [← List.cons_append, ← List.append_assoc] at hin
      have hb' := (List.append_inj' hin rfl).1
      exact absurd (by simp [hb']) hc

/-- **Induction over the tokens of a text**: nothing is left, a separator comes first, a
token is all that is left, or a token and a separator come first. -/
theorem tokens_induction {P : List UInt8 → Prop} (d : UInt8) (nil : P [])
    (sep : ∀ s, P s → P (d :: s)) (last : ∀ t, t ≠ [] → d ∉ t → P t)
    (token : ∀ t s, t ≠ [] → d ∉ t → P s → P (t ++ d :: s)) (s : List UInt8) : P s := by
  induction hn : s.length using Nat.strong_induction_on generalizing s with
  | _ n ih =>
    by_cases hd : d ∈ s
    · obtain ⟨t, rest, rfl, ht⟩ := List.eq_append_cons_of_mem hd
      have hrest : P rest := ih rest.length (by simp [← hn]; omega) rest rfl
      by_cases hne : t = []
      · rw [hne]
        exact sep rest hrest
      · exact token t rest hne ht hrest
    · by_cases hne : s = []
      · rw [hne]
        exact nil
      · exact last s hne hd

/-! ## Tokens -/

/-- A byte that a token may have: not the end, and no delimiter. -/
def isTokenByte (delim : List UInt8) (c : UInt8) : Bool := c ≠ 0 ∧ c ∉ delim

/-- `strtok(s, delim)`, and with `s` where the last call stopped `strtok(NULL, delim)`: the
token it finds, if any, and where it stops. A token that ends with the string leaves a null
pointer behind. -/
def strtok (delim : List UInt8) : Option (List UInt8) →
    Option (Option (List UInt8) × Option (List UInt8))
  | none => some (none, none)
  | some s =>
    match s.dropWhile (· ∈ delim) with
    | [] => none
    | c :: s =>
      if c = 0 then some (none, none)
      else
        match (c :: s).dropWhile (isTokenByte delim) with
        | [] => none
        | d :: rest =>
          if d = 0 then some (some (c :: s), none)
          else some (some ((c :: s).takeWhile (isTokenByte delim) ++ 0 :: rest), some rest)

variable {delim : List UInt8}

theorem strtok_zero (hdelim : 0 ∉ delim) (s : List UInt8) :
    strtok delim (some (0 :: s)) = some (none, none) := by
  simp [strtok, hdelim]

theorem strtok_delim {d : UInt8} (hd : d ∈ delim) (s : List UInt8) :
    strtok delim (some (d :: s)) = strtok delim (some s) := by
  simp [strtok, hd]

section Token

variable {t : List UInt8} (hne : t ≠ []) (ht : ∀ c ∈ t, isTokenByte delim c = true)
include hne ht

theorem exists_of_token (m : List UInt8) :
    ∃ c s, c ≠ 0 ∧ c :: s = t ++ m ∧ (t ++ m).dropWhile (· ∈ delim) = c :: s := by
  cases t with
  | nil => exact absurd rfl hne
  | cons c t =>
    have hc : c ≠ 0 ∧ c ∉ delim := of_decide_eq_true (ht c List.mem_cons_self)
    exact ⟨c, t ++ m, hc.1, rfl, by simp [hc.2]⟩

theorem strtok_unterminated : strtok delim (some t) = none := by
  obtain ⟨c, s, hc, hs, hskip⟩ := exists_of_token hne ht []
  rw [List.append_nil] at hs hskip
  have hspan : (c :: s).dropWhile (isTokenByte delim) = [] := by
    rw [hs, List.dropWhile_eq_nil_iff]
    exact ht
  simp only [strtok, hskip, hc, if_false, hspan]

theorem strtok_last (m : List UInt8) :
    strtok delim (some (t ++ 0 :: m)) = some (some (t ++ 0 :: m), none) := by
  obtain ⟨c, s, hc, hs, hskip⟩ := exists_of_token hne ht (0 :: m)
  have hspan : (c :: s).dropWhile (isTokenByte delim) = 0 :: m := by
    rw [hs, List.dropWhile_append_of_pos ht]
    simp [isTokenByte]
  simp only [strtok, hskip, hc, if_false, hspan, if_true]
  rw [hs]

theorem strtok_token {d : UInt8} (hd : d ∈ delim) (hd0 : d ≠ 0) (m : List UInt8) :
    strtok delim (some (t ++ d :: m)) = some (some (t ++ 0 :: m), some m) := by
  obtain ⟨c, s, hc, hs, hskip⟩ := exists_of_token hne ht (d :: m)
  have hstop : isTokenByte delim d = false := by simp [isTokenByte, hd]
  have hspan : (c :: s).dropWhile (isTokenByte delim) = d :: m := by
    rw [hs, List.dropWhile_append_of_pos ht, List.dropWhile_cons, hstop]
    rfl
  have htake : (c :: s).takeWhile (isTokenByte delim) = t := by
    rw [hs, List.takeWhile_append_of_pos ht, List.takeWhile_cons, hstop]
    exact List.append_nil t
  simp only [strtok, hskip, hc, if_false, hspan, htake, hd0]

end Token

/-- How many bytes `strtok` may still look at. -/
def left : Option (List UInt8) → Nat
  | none => 0
  | some s => s.length + 1

theorem strtok_left {s s' : Option (List UInt8)} {token : List UInt8}
    (h : strtok delim s = some (some token, s')) : left s' < left s := by
  cases s with
  | none => simp [strtok] at h
  | some s =>
    unfold strtok at h
    have hle := List.length_dropWhile_le (· ∈ delim) s
    cases hskip : s.dropWhile (· ∈ delim) with
    | nil => simp [hskip] at h
    | cons c s₁ =>
      rw [hskip, List.length_cons] at hle
      simp only [hskip] at h
      by_cases hc : c = 0
      · simp [hc] at h
      · have hle₂ := List.length_dropWhile_le (isTokenByte delim) (c :: s₁)
        rw [if_neg hc] at h
        split at h
        · simp at h
        · rename_i d rest hspan
          rw [hspan, List.length_cons, List.length_cons] at hle₂
          split_ifs at h with hd
          · simp only [Option.some.injEq, Prod.mk.injEq] at h
            rw [← h.2]
            exact Nat.succ_pos _
          · simp only [Option.some.injEq, Prod.mk.injEq] at h
            rw [← h.2]
            show rest.length + 1 < s.length + 1
            omega

end CBuffer
