import Mathlib.Data.Finset.Card
import Mathlib.Tactic.SplitIfs

/-!
# Recency lists — a bounded list of keys, in the order of their uses once it is full

A recency list has up to `cap` keys. While it fills, new keys stand in the order of their first
use. Once it is full every use puts its key last, and a new key takes the place of the first one.
Here:

* **`use`** — one use of a key;
* **`nodup_use`**, **`length_use`** — no key stands twice, and a full list stays full;
* **`mem_uses`** — a key stays in a full list for as long as fewer than `cap` others are used.
-/

namespace Recency

variable {κ : Type} [DecidableEq κ] {cap : Nat} {q : List κ} {k j : κ}

def use (cap : Nat) (q : List κ) (k : κ) : List κ :=
  if k ∈ q then if q.length = cap then q.erase k ++ [k] else q
  else (if q.length = cap then q.tail else q) ++ [k]

theorem nodup_use (h : q.Nodup) (cap : Nat) (k : κ) : (use cap q k).Nodup := by
  have happend {r : List κ} (hr : r.Nodup) (hk : k ∉ r) : (r ++ [k]).Nodup :=
    List.nodup_append.mpr ⟨hr, List.nodup_singleton k, fun a ha b hb =>
      fun heq => hk (List.mem_singleton.mp hb ▸ heq ▸ ha)⟩
  unfold use
  split_ifs with hmem hfull hfull
  · exact happend (h.erase k) h.not_mem_erase
  · exact h
  · exact happend h.tail fun hk => hmem (List.mem_of_mem_tail hk)
  · exact happend h hmem

/-- A full list stays full. -/
theorem length_use (hpos : 0 < cap) (h : q.length = cap) (k : κ) : (use cap q k).length = cap := by
  unfold use
  split_ifs with hmem
  · rw [List.length_append, List.length_erase_of_mem hmem, List.length_singleton]
    omega
  · rw [List.length_append, List.length_tail, List.length_singleton]
    omega

/-! ## Which keys stay -/

/-- `k` has nothing behind it but keys of `others`. -/
def Behind (others : Finset κ) (k : κ) (q : List κ) : Prop :=
  ∃ before after, q = before ++ k :: after ∧ ∀ j ∈ after, j ∈ others

variable {others : Finset κ}

omit [DecidableEq κ] in
theorem Behind.mem (h : Behind others k q) : k ∈ q := by
  obtain ⟨before, after, rfl, -⟩ := h
  exact List.mem_append_right _ List.mem_cons_self

/-- In a full list every use leaves its key last. -/
theorem behind_use_self (hfull : q.length = cap) (others : Finset κ) (k : κ) :
    Behind others k (use cap q k) := by
  unfold use
  rw [if_pos hfull, if_pos hfull]
  split_ifs
  · exact ⟨q.erase k, [], rfl, fun j hj => absurd hj List.not_mem_nil⟩
  · exact ⟨q.tail, [], rfl, fun j hj => absurd hj List.not_mem_nil⟩

/-- The use of another key. A key that leaves the list has `cap - 1` others behind it. -/
theorem Behind.use (h : Behind others k q) (hnodup : q.Nodup) (hfull : q.length = cap)
    (hfew : others.card < cap) (hk : k ∉ others) (hj : j ∈ others) :
    Behind others k (use cap q j) := by
  obtain ⟨before, after, rfl, hafter⟩ := h
  have hjk : k ≠ j := fun heq => hk (heq ▸ hj)
  have hmore {rest : List κ} (hrest : ∀ x ∈ rest, x ∈ others) : ∀ x ∈ rest ++ [j], x ∈ others :=
    fun x hx => (List.mem_append.mp hx).elim (hrest x) fun hx => List.mem_singleton.mp hx ▸ hj
  unfold Recency.use
  rw [if_pos hfull, if_pos hfull]
  split_ifs with hmem
  · by_cases hbefore : j ∈ before
    · refine ⟨before.erase j, after ++ [j], ?_, hmore hafter⟩
      rw [List.erase_append_left _ hbefore, List.append_assoc, List.cons_append]
    · refine ⟨before, after.erase j ++ [j], ?_,
        hmore fun x hx => hafter x (List.mem_of_mem_erase hx)⟩
      rw [List.erase_append_right _ hbefore, List.erase_cons_tail (by simpa using hjk),
        List.append_assoc, List.cons_append]
  · cases before with
    | cons first before =>
      refine ⟨before, after ++ [j], ?_, hmore hafter⟩
      rw [List.cons_append, List.tail_cons, List.append_assoc, List.cons_append]
    | nil =>
      -- the keys behind `k` and the new one are `cap` of the others
      have hlen : (after ++ [j]).length = cap := by
        rw [← hfull, List.nil_append, List.length_append, List.length_singleton, List.length_cons]
      have hdistinct : (after ++ [j]).Nodup := by
        refine List.nodup_append.mpr ⟨hnodup.of_cons, List.nodup_singleton j, ?_⟩
        rintro a ha b hb rfl
        exact hmem (List.mem_cons_of_mem k (List.mem_singleton.mp hb ▸ ha))
      have hcard : (after ++ [j]).toFinset.card ≤ others.card :=
        Finset.card_le_card fun x hx => hmore hafter x (List.mem_toFinset.mp hx)
      rw [List.toFinset_card_of_nodup hdistinct, hlen] at hcard
      exact absurd hfew (Nat.not_lt.mpr hcard)

/-- **What stays.** In a full list, whatever else is used behind a use of `k`: as long as it is
fewer than `cap` other keys, `k` is still there. Induction on the uses. -/
theorem mem_uses (h : Behind others k q) (hnodup : q.Nodup) (hpos : 0 < cap)
    (hfull : q.length = cap) (hfew : others.card < cap) (hk : k ∉ others) {ks : List κ}
    (hks : ∀ j ∈ ks, j = k ∨ j ∈ others) : k ∈ ks.foldl (use cap) q := by
  induction ks generalizing q with
  | nil => exact h.mem
  | cons j ks ih =>
    obtain ⟨hj, hks⟩ := List.forall_mem_cons.mp hks
    refine ih ?_ (nodup_use hnodup cap j) (length_use hpos hfull j) hks
    rcases hj with rfl | hj
    · exact behind_use_self hfull others j
    · exact h.use hnodup hfull hfew hk hj

end Recency
