import Mathlib.Data.Nat.Basic
import Mathlib.Order.Lattice
import Mathlib.Tactic.SplitIfs

/-!
# Heaps — a binary min-heap in an array, and an entry that sinks in it

The children of the entry at `i` are those at `2 * i + 1` and `2 * i + 2`. Here:

* **`Ordered`** — among the first `count` entries no key is below that of its parent;
* **`Sinking`** — all is in order but for the entry at `i`, whose key is the greatest;
* **`Sinking.swap`** — a swap with the lower one of its children takes such an entry one level
  down, and **`Sinking.ordered`** — at a leaf the heap is in order again;
* **`Ordered.root_le`** — the first entry has the lowest key.
-/

namespace Heap

variable {α κ : Type} [LinearOrder κ] {key : α → κ} {n count : Nat} {v : Vector α n} {i : Nat}

def Ordered (key : α → κ) (v : Vector α n) (count : Nat) : Prop :=
  ∀ j (hj : j < n), 0 < j → j < count → key v[(j - 1) / 2] ≤ key v[j]

/-- Induction on the position, which the parent's is below. -/
theorem Ordered.root_le (h : Ordered key v count) (hn : 0 < n) (j : Nat) (hj : j < n)
    (hcount : j < count) : key v[0] ≤ key v[j] := by
  induction j using Nat.strongRecOn with
  | _ j ih =>
    rcases Nat.eq_zero_or_pos j with rfl | hpos
    · exact le_rfl
    · have hparent : (j - 1) / 2 < j := by omega
      exact (ih _ hparent (hparent.trans hj) (hparent.trans hcount)).trans (h j hj hpos hcount)

/-- One more entry behind the others, with a key that is not below theirs. -/
theorem Ordered.set_last (h : Ordered key v count) (hcount : count < n) {a : α}
    (hgreatest : ∀ j (hj : j < n), j < count → key v[j] ≤ key a) :
    Ordered key (v.set count a) (count + 1) := by
  intro j hj hpos hlt
  have hparent : (j - 1) / 2 < count := by omega
  rw [Vector.getElem_set_ne hcount _ (by omega)]
  rcases Nat.lt_succ_iff_lt_or_eq.mp hlt with hbefore | rfl
  · rw [Vector.getElem_set_ne hcount _ (by omega)]
    exact h j hj hpos hbefore
  · rw [Vector.getElem_set_self]
    exact hgreatest _ _ hparent

/-- The entry at `i` is on its way down: all other edges are in order, and so would be those from
its parent to its children. -/
structure Sinking (key : α → κ) (v : Vector α n) (i : Nat) (hi : i < n) : Prop where
  above : ∀ j (hj : j < n), 0 < j → (j - 1) / 2 ≠ i → key v[(j - 1) / 2] ≤ key v[j]
  around : ∀ j (hj : j < n), 0 < j → (j - 1) / 2 = i → 0 < i → key v[(i - 1) / 2] ≤ key v[j]
  greatest : ∀ j (hj : j < n), key v[j] ≤ key v[i]

/-- An entry that takes a new key, greater than all others, starts to sink. -/
theorem Ordered.set (h : Ordered key v n) (hi : i < n) {a : α}
    (hgreatest : ∀ j (hj : j < n), key v[j] ≤ key a) : Sinking key (v.set i a) i hi := by
  refine ⟨fun j hj hpos hparent => ?_, fun j hj hpos hparent hroot => ?_, fun j hj => ?_⟩
  · rw [Vector.getElem_set_ne hi _ (Ne.symm hparent), Vector.getElem_set]
    split_ifs
    · exact hgreatest _ _
    · exact h j hj hpos hj
  · subst hparent
    rw [Vector.getElem_set_ne hi _ (by omega), Vector.getElem_set_ne hi _ (by omega)]
    exact (h _ hi hroot hi).trans (h j hj hpos hj)
  · rw [Vector.getElem_set_self, Vector.getElem_set]
    split_ifs
    · exact le_rfl
    · exact hgreatest j hj

/-- **One level down.** The swap with a child that is not above the other one. -/
theorem Sinking.swap {hi : i < n} (h : Sinking key v i hi) {next : Nat} (hnext : next < n)
    (hpos : 0 < next) (hparent : (next - 1) / 2 = i)
    (hleast : ∀ j (hj : j < n), 0 < j → (j - 1) / 2 = i → key v[next] ≤ key v[j]) :
    Sinking key (v.swap i next) next hnext := by
  have hlt : i < next := by omega
  refine ⟨fun j hj hj0 hjparent => ?_, fun j hj hj0 hjparent _ => ?_, fun j hj => ?_⟩
  · by_cases hsibling : (j - 1) / 2 = i
    · have hij : j ≠ i := by omega
      have hswapped : (v.swap i next)[(j - 1) / 2] = v[next] := by
        simp only [hsibling, Vector.getElem_swap_left]
      rw [hswapped, Vector.getElem_swap, if_neg hij]
      split_ifs
      · exact h.greatest next hnext
      · exact hleast j hj hj0 hsibling
    · rw [Vector.getElem_swap_of_ne hsibling hjparent, Vector.getElem_swap]
      split_ifs with hji hjn
      · subst hji
        exact h.around next hnext hpos hparent hj0
      · exact absurd (hjn ▸ hparent) hsibling
      · exact h.above j hj hj0 hsibling
  · have hjn : j ≠ next := by omega
    have hji : j ≠ i := by omega
    have hswapped : (v.swap i next)[(next - 1) / 2] = v[next] := by
      simp only [hparent, Vector.getElem_swap_left]
    rw [hswapped, Vector.getElem_swap_of_ne hji hjn]
    have habove := h.above j hj hj0 (by omega)
    simp only [hjparent] at habove
    exact habove
  · rw [Vector.getElem_swap_right, Vector.getElem_swap]
    split_ifs
    · exact h.greatest next hnext
    · exact le_rfl
    · exact h.greatest j hj

/-- An entry without children has sunk. -/
theorem Sinking.ordered {hi : i < n} (h : Sinking key v i hi) (hleaf : n ≤ 2 * i + 1) :
    Ordered key v n :=
  fun j hj hpos _ => h.above j hj hpos (by omega)

/-- Distinct keys are in strict order. -/
theorem Ordered.lt (h : Ordered key v count) (hcount : count ≤ n)
    (hdistinct : ((v.toList.take count).map key).Nodup) {j : Nat} (hpos : 0 < j) (hj : j < count) :
    key v[(j - 1) / 2] < key v[j] := by
  have hparent : (j - 1) / 2 < j := by omega
  have hlen : ((v.toList.take count).map key).length = count := by
    rw [List.length_map, List.length_take, Vector.length_toList, Nat.min_eq_left hcount]
  have hne := List.pairwise_iff_getElem.mp hdistinct ((j - 1) / 2) j
    (hlen.symm ▸ hparent.trans hj) (hlen.symm ▸ hj) hparent
  rw [List.getElem_map, List.getElem_map, List.getElem_take, List.getElem_take,
    Vector.getElem_toList, Vector.getElem_toList] at hne
  exact lt_of_le_of_ne (h j (hj.trans_le hcount) hpos hj) hne

end Heap
