import Mathlib.Order.Bounds.Basic
import Mathlib.Data.Set.Basic

/-!
# Records — redundant records with sequence numbers

A value that has to survive a power cut is kept in several records. Each has a sequence number,
and a record that was not written to its end can be told from a valid one. The valid record with
the highest number counts; a new value goes into one of the others.

* **`numbers`** — the sequence numbers of the valid records. The current one is their greatest
  (`IsGreatest`);
* **`Left`** — what an overwriting of one record can leave of the records, finished or not;
* **`Left.isGreatest`** — it leaves the old number current or makes the new one so.
-/

namespace Records

variable {ι α β : Type} [DecidableEq ι] [LinearOrder β] {valid : α → Bool} {number : α → β}
  {r r' : ι → α} {e : α} {i j : ι} {n : β}

def numbers (valid : α → Bool) (number : α → β) (r : ι → α) : Set β :=
  {n | ∃ i, valid (r i) = true ∧ number (r i) = n}

omit [DecidableEq ι] [LinearOrder β] in
theorem mem_numbers (h : valid (r i) = true) : number (r i) ∈ numbers valid number r := ⟨i, h, rfl⟩

omit [LinearOrder β] in
/-- A number after an overwriting is the new one, or that of another record. -/
theorem mem_numbers_update (h : n ∈ numbers valid number (Function.update r j e)) :
    (valid e = true ∧ number e = n) ∨ ∃ i, i ≠ j ∧ valid (r i) = true ∧ number (r i) = n := by
  obtain ⟨i, hvalid, hnumber⟩ := h
  by_cases hij : i = j
  · subst hij
    rw [Function.update_self] at hvalid hnumber
    exact Or.inl ⟨hvalid, hnumber⟩
  · rw [Function.update_of_ne hij] at hvalid hnumber
    exact Or.inr ⟨i, hij, hvalid, hnumber⟩

omit [LinearOrder β] in
/-- A record that is written again with its number. -/
theorem numbers_update_same (he : valid e = valid (r j)) (hnumber : number e = number (r j)) :
    numbers valid number (Function.update r j e) = numbers valid number r := by
  refine Set.ext fun n => exists_congr fun i => ?_
  by_cases hij : i = j
  · subst hij
    rw [Function.update_self, he, hnumber]
  · rw [Function.update_of_ne hij]

omit [LinearOrder β] in
theorem numbers_update_invalid (he : valid e = false) :
    numbers valid number (Function.update r j e) ⊆ numbers valid number r := by
  intro n hn
  rcases mem_numbers_update hn with ⟨hvalid, -⟩ | ⟨i, -, hi⟩
  · exact absurd (he.symm.trans hvalid) Bool.false_ne_true
  · exact ⟨i, hi⟩

/-- The loss of a record that is not the current one. -/
theorem isGreatest_update_invalid (h : IsGreatest (numbers valid number r) n)
    (hi : valid (r i) = true ∧ number (r i) = n) (hij : i ≠ j) (he : valid e = false) :
    IsGreatest (numbers valid number (Function.update r j e)) n := by
  refine ⟨⟨i, ?_⟩, fun m hm => ?_⟩
  · rw [Function.update_of_ne hij]
    exact hi
  · exact h.2 (numbers_update_invalid he hm)

/-- A valid record that no other one outnumbers. -/
theorem isGreatest_update_newer (hle : ∀ m ∈ numbers valid number r, m ≤ number e)
    (he : valid e = true) :
    IsGreatest (numbers valid number (Function.update r j e)) (number e) := by
  refine ⟨⟨j, ?_⟩, fun m hm => ?_⟩
  · rw [Function.update_self]
    exact ⟨he, rfl⟩
  · rcases mem_numbers_update hm with ⟨-, hnumber⟩ | ⟨k, -, hvalid, hnumber⟩
    · exact hnumber.ge
    · exact hle m ⟨k, hvalid, hnumber⟩

/-- What the overwriting of record `j` with `e` leaves: it was not begun, it broke off and left
something invalid, or it came to its end. -/
inductive Left (valid : α → Bool) (r : ι → α) (j : ι) (e : α) : (ι → α) → Prop where
  | untouched : Left valid r j e r
  | torn (x : α) (hx : valid x = false) : Left valid r j e (Function.update r j x)
  | written : Left valid r j e (Function.update r j e)

/-- **An overwriting is atomic**, when the current record is another one and the new number is not
lower. -/
theorem Left.isGreatest (hleft : Left valid r j e r') (h : IsGreatest (numbers valid number r) n)
    (hi : valid (r i) = true ∧ number (r i) = n) (hij : i ≠ j) (he : valid e = true)
    (hle : n ≤ number e) :
    IsGreatest (numbers valid number r') n ∨ IsGreatest (numbers valid number r') (number e) := by
  cases hleft with
  | untouched => exact Or.inl h
  | torn x hx => exact Or.inl (isGreatest_update_invalid h hi hij hx)
  | written => exact Or.inr (isGreatest_update_newer (fun m hm => (h.2 hm).trans hle) he)

/-- Where no record is valid, an overwriting makes its own one current or leaves none. -/
theorem Left.isGreatest_of_empty (hleft : Left valid r j e r')
    (h : numbers valid number r = ∅) (he : valid e = true) :
    numbers valid number r' = ∅ ∨ IsGreatest (numbers valid number r') (number e) := by
  cases hleft with
  | untouched => exact Or.inl h
  | torn x hx =>
    exact Or.inl (Set.subset_eq_empty (numbers_update_invalid hx) h)
  | written =>
    exact Or.inr (isGreatest_update_newer
      (fun m hm => absurd hm (Set.eq_empty_iff_forall_notMem.mp h m)) he)

omit [LinearOrder β] in
/-- Every number after an overwriting is an old one or the new one. -/
theorem Left.numbers_subset (hleft : Left valid r j e r') :
    ∀ n ∈ numbers valid number r', n ∈ numbers valid number r ∨ n = number e := by
  intro n hn
  cases hleft with
  | untouched => exact Or.inl hn
  | torn x hx => exact Or.inl (numbers_update_invalid hx hn)
  | written =>
    rcases mem_numbers_update hn with ⟨-, hnumber⟩ | ⟨k, -, hk⟩
    · exact Or.inr hnumber.symm
    · exact Or.inl ⟨k, hk⟩

end Records
