import Mathlib.Data.List.TakeWhile
import Mathlib.Data.List.Infix
import Mathlib.Tactic.Linarith

/-!
# C strings over byte lists

A `char *` is modelled by the bytes from the pointer on, as a `List UInt8`; a string
literal is written without its terminator, and a byte past the end of the list reads as
`0`. The functions are those of `string.h` and `stdlib.h`, as far as their callers look at
the result:

* **`cstr`** — the bytes in front of the first NUL, with `strncmp_eq_zero_iff` and
  `strcmp_eq_zero_iff` reducing the two comparisons to equality of `cstr`s;
* **`atoi`** — white space, an optional sign, decimal digits, saturating at the range of a
  32-bit `long`. `numeralLen` counts the bytes that belong to the numeral, and
  `atoi_take` says that only those bytes matter.
-/

namespace CString

def ascii (cs : List Char) : List UInt8 := cs.map fun c => UInt8.ofNat c.toNat

/-- The string at a pointer: the bytes in front of the first NUL. -/
def cstr (m : List UInt8) : List UInt8 := m.takeWhile (· ≠ 0)

def deref (m : List UInt8) : UInt8 := m.headD 0

@[simp] theorem deref_nil : deref [] = 0 := rfl

@[simp] theorem deref_cons (x : UInt8) (m : List UInt8) : deref (x :: m) = x := rfl

@[simp] theorem cstr_nil : cstr [] = [] := rfl

@[simp] theorem cstr_zero_cons (m : List UInt8) : cstr (0 :: m) = [] := by simp [cstr]

theorem cstr_cons_of_ne {x : UInt8} (h : x ≠ 0) (m : List UInt8) :
    cstr (x :: m) = x :: cstr m := by simp [cstr, h]

theorem cstr_eq_self {m : List UInt8} (h : 0 ∉ m) : cstr m = m := by
  refine List.takeWhile_eq_self_iff.mpr fun x hx => ?_
  have hne : x ≠ 0 := fun h0 => h (h0 ▸ hx)
  simpa using hne

theorem zero_notMem_cstr (m : List UInt8) : 0 ∉ cstr m := by
  intro h
  simpa using List.mem_takeWhile_imp h

theorem deref_eq_zero_iff (m : List UInt8) : deref m = 0 ↔ cstr m = [] := by
  cases m with
  | nil => simp
  | cons b m =>
    rcases eq_or_ne b 0 with rfl | hne
    · simp
    · simp [hne, cstr_cons_of_ne hne]

theorem cstr_append {t : List UInt8} (h : 0 ∉ t) (m : List UInt8) :
    cstr (t ++ m) = t ++ cstr m := by
  refine List.takeWhile_append_of_pos fun b hb => ?_
  exact decide_eq_true fun h0 => h (h0 ▸ hb)

theorem cstr_take_succ (n : Nat) (m : List UInt8) :
    cstr (m.take (n + 1)) = if deref m = 0 then [] else deref m :: cstr (m.tail.take n) := by
  cases m with
  | nil => simp
  | cons x m =>
    by_cases hx : x = 0
    · simp [hx]
    · simp [hx, cstr_cons_of_ne hx]

/-! ## Arrays -/

structure CArray (n : Nat) where
  bytes : List UInt8
  hlen : bytes.length = n
  deriving DecidableEq, Repr

theorem CArray.ext {n : Nat} {a b : CArray n} (h : a.bytes = b.bytes) : a = b := by
  cases a
  cases b
  cases h
  rfl

/-- The array a `bzero` leaves. -/
def CArray.zero (n : Nat) : CArray n := ⟨List.replicate n 0, List.length_replicate⟩

def CArray.set {n : Nat} (a : CArray n) (i : Nat) (b : UInt8) : CArray n :=
  ⟨a.bytes.set i b, by rw [List.length_set, a.hlen]⟩

theorem length_strncpy (src : List UInt8) (k n : Nat) :
    ((cstr src ++ List.replicate n 0).take (min k n)
      ++ List.replicate (n - k) 0).length = n := by
  simp only [List.length_append, List.length_take, List.length_replicate]
  omega

/-- `strncpy(dst, src, k)` into a zeroed array of `n` bytes: the string and a padding of
NULs, `k` bytes together. -/
def strncpyZeroed (n : Nat) (src : List UInt8) (k : Nat) : CArray n :=
  ⟨(cstr src ++ List.replicate n 0).take (min k n) ++ List.replicate (n - k) 0,
    length_strncpy src k n⟩

theorem cstr_replicate_zero (n : Nat) : cstr (List.replicate n 0) = [] := by
  cases n with
  | zero => rfl
  | succ n => exact cstr_zero_cons _

/-- The first `k` characters of the string, and NULs up to the end of the array. -/
theorem bytes_strncpyZeroed {n k : Nat} (h : k ≤ n) (src : List UInt8) :
    (strncpyZeroed n src k).bytes
      = (cstr src).take k ++ List.replicate (n - ((cstr src).take k).length) 0 := by
  show (cstr src ++ List.replicate n 0).take (min k n) ++ List.replicate (n - k) 0 = _
  rw [Nat.min_eq_left h, List.take_append, List.take_replicate, List.append_assoc,
    List.replicate_append_replicate, List.length_take]
  congr 2
  omega

theorem cstr_strncpyZeroed {n k : Nat} (h : k ≤ n) (src : List UInt8) :
    cstr (strncpyZeroed n src k).bytes = (cstr src).take k := by
  have hzero : 0 ∉ (cstr src).take k := fun hmem => zero_notMem_cstr src (List.mem_of_mem_take hmem)
  rw [bytes_strncpyZeroed h, cstr_append hzero, cstr_replicate_zero, List.append_nil]

/-! ## Comparison -/

/-- `strncmp(a, b, n)`: the difference of the first differing bytes among the first `n`,
looking no further than a common NUL. -/
def strncmp (a b : List UInt8) : Nat → Int
  | 0 => 0
  | n + 1 =>
    if deref a ≠ deref b then (deref a).toNat - (deref b).toNat
    else if deref a = 0 then 0
    else strncmp a.tail b.tail n

/-- `strcmp(a, b)`: the comparison without a limit. The NUL that ends the longer of the two
lists is the last byte it can look at. -/
def strcmp (a b : List UInt8) : Int := strncmp a b (max a.length b.length + 1)

def toLower (b : UInt8) : UInt8 := if 65 ≤ b ∧ b ≤ 90 then b + 32 else b

def strncasecmp (a b : List UInt8) (n : Nat) : Int :=
  strncmp (a.map toLower) (b.map toLower) n

def strcasecmp (a b : List UInt8) : Int := strcmp (a.map toLower) (b.map toLower)

theorem toNat_sub_toNat_ne_zero {x y : UInt8} (h : x ≠ y) : (x.toNat : Int) - y.toNat ≠ 0 := by
  intro h0
  apply h
  apply UInt8.toNat_inj.mp
  omega

/-- `strncmp` finds no difference iff the strings agree on their first `n` bytes.
Induction on `n`; the bytes pointed at decide each round. -/
theorem strncmp_eq_zero_iff (n : Nat) (a b : List UInt8) :
    strncmp a b n = 0 ↔ cstr (a.take n) = cstr (b.take n) := by
  induction n generalizing a b with
  | zero => simp [strncmp]
  | succ n ih =>
    unfold strncmp
    rw [cstr_take_succ, cstr_take_succ]
    by_cases heq : deref a = deref b
    · by_cases h0 : deref b = 0
      · simp [heq, h0]
      · simp [heq, h0, ih]
    · -- different bytes: at most one of them is the NUL, so the strings differ here
      rw [if_pos heq]
      constructor
      · exact fun h => absurd h (toNat_sub_toNat_ne_zero heq)
      · intro h
        exfalso
        by_cases ha : deref a = 0
        · have hb : deref b ≠ 0 := fun hb => heq (ha.trans hb.symm)
          simp [ha, hb] at h
        · by_cases hb : deref b = 0
          · simp [ha, hb] at h
          · rw [if_neg ha, if_neg hb] at h
            exact heq (List.cons.inj h).1

theorem strcmp_eq_zero_iff (a b : List UInt8) : strcmp a b = 0 ↔ cstr a = cstr b := by
  rw [strcmp, strncmp_eq_zero_iff, List.take_of_length_le (by omega),
    List.take_of_length_le (by omega)]

/-! ## Numbers -/

def isSpace (b : UInt8) : Bool := b == 32 || (9 ≤ b && b ≤ 13)

def isDigit (b : UInt8) : Bool := 48 ≤ b && b ≤ 57

def decimal (ds : List UInt8) : Nat := ds.foldl (fun n d => 10 * n + (d.toNat - 48)) 0

def signLen (m : List UInt8) : Nat := if deref m = 43 ∨ deref m = 45 then 1 else 0

/-- The integer spelled at a pointer: white space, an optional sign, decimal digits;
`0` when no digit follows. -/
def spelled (m : List UInt8) : Int :=
  let s := m.dropWhile isSpace
  let n := decimal ((s.drop (signLen s)).takeWhile isDigit)
  if deref s = 45 then -(n : Int) else n

/-- `atoi`: the spelled integer, saturating like the 32-bit `strtol` behind it. -/
def atoi (m : List UInt8) : Int := max (-2147483648) (min 2147483647 (spelled m))

/-- How many bytes from the pointer on belong to the white space, sign and digits. -/
def numeralLen (m : List UInt8) : Nat :=
  let s := m.dropWhile isSpace
  (m.takeWhile isSpace).length + signLen s + ((s.drop (signLen s)).takeWhile isDigit).length

theorem takeWhile_take {α : Type} (p : α → Bool) (m : List α) (n : Nat) :
    (m.take n).takeWhile p = (m.takeWhile p).take n := by
  induction m generalizing n with
  | nil => simp
  | cons x m ih =>
    cases n with
    | zero => simp
    | succ n =>
      cases hx : p x
      · simp [hx]
      · simp [hx, ih]

theorem dropWhile_take {α : Type} (p : α → Bool) (m : List α) (n : Nat)
    (h : (m.takeWhile p).length ≤ n) :
    (m.take n).dropWhile p = (m.dropWhile p).take (n - (m.takeWhile p).length) := by
  induction m generalizing n with
  | nil => simp
  | cons x m ih =>
    cases hx : p x
    · cases n <;> simp [hx]
    · simp only [List.takeWhile_cons, hx, if_true, List.length_cons] at h
      obtain ⟨n, rfl⟩ : ∃ k, n = k + 1 := ⟨n - 1, by omega⟩
      simp only [List.take_succ_cons, List.dropWhile_cons, List.takeWhile_cons, hx, if_true,
        List.length_cons, Nat.add_sub_add_right]
      exact ih n (by omega)

theorem signLen_take {m : List UInt8} {n : Nat} (h : signLen m ≤ n) :
    signLen (m.take n) = signLen m := by
  cases n with
  | zero =>
    have h0 : signLen m = 0 := by omega
    rw [h0]
    rfl
  | succ n => cases m <;> rfl

/-- Only the bytes of the numeral matter to `spelled`: cutting the memory behind them
changes nothing. -/
theorem spelled_take {m : List UInt8} {n : Nat} (h : numeralLen m ≤ n) :
    spelled (m.take n) = spelled m := by
  unfold numeralLen at h
  have hspace : (m.takeWhile isSpace).length ≤ n := by simp only at h; omega
  unfold spelled
  rw [dropWhile_take isSpace m n hspace]
  generalize hk : n - (m.takeWhile isSpace).length = k
  generalize hs : m.dropWhile isSpace = s at h ⊢
  have hk' : signLen s + ((s.drop (signLen s)).takeWhile isDigit).length ≤ k := by
    simp only at h; omega
  have hsign : signLen (s.take k) = signLen s := signLen_take (by omega)
  have hdigits : ((s.take k).drop (signLen s)).takeWhile isDigit
      = (s.drop (signLen s)).takeWhile isDigit := by
    rw [List.drop_take, takeWhile_take]
    exact List.take_of_length_le (by omega)
  simp only [hsign, hdigits]
  -- the sign byte itself: kept, unless nothing of the numeral is left to keep
  cases k with
  | zero =>
    have h0 : signLen s = 0 := by omega
    have hne : deref s ≠ 45 := by
      intro h45
      simp [signLen, h45] at h0
    simp [hne]
  | succ k => cases s <;> rfl

theorem atoi_take {m : List UInt8} {n : Nat} (h : numeralLen m ≤ n) :
    atoi (m.take n) = atoi m := by
  unfold atoi
  rw [spelled_take h]

/-- Saturation never turns a non-zero integer into `0` or back. -/
theorem atoi_eq_zero_iff (m : List UInt8) : atoi m = 0 ↔ spelled m = 0 := by
  unfold atoi
  omega

end CString
