import Mathlib.Data.List.Perm.Basic
import ControlFan.Lib.Slots

/-!
# Queues — lists that are searched from their start

A queue grows at its end, and what leaves it is the first entry that a test accepts, or all of
those.

* **`takeFirst`** — the first entry that passes, and the queue without it;
* **`updateFirst`** — the same entry, changed in its place;
  **`map_updateFirst`**: what the change does not touch stays, entry by entry.
-/

namespace Queue

open Slots

variable {α β : Type}

def takeFirst (p : α → Bool) : List α → Option (α × List α)
  | [] => none
  | a :: as => if p a then some (a, as) else (takeFirst p as).map fun (b, bs) => (b, a :: bs)

theorem takeFirst_eq_none {p : α → Bool} {xs : List α} (h : takeFirst p xs = none) :
    ∀ a ∈ xs, p a = false := by
  induction xs with
  | nil => intro a ha; exact absurd ha List.not_mem_nil
  | cons a as ih =>
    rw [takeFirst] at h
    split_ifs at h with ha
    exact List.forall_mem_cons.mpr ⟨Bool.eq_false_iff.mpr ha, ih (Option.map_eq_none_iff.mp h)⟩

theorem takeFirst_eq_some {p : α → Bool} {xs ys : List α} {a : α}
    (h : takeFirst p xs = some (a, ys)) :
    p a = true ∧ ∃ pre post, xs = pre ++ a :: post ∧ ys = pre ++ post ∧ ∀ b ∈ pre, p b = false := by
  induction xs generalizing ys with
  | nil => exact absurd h (by simp [takeFirst])
  | cons b bs ih =>
    rw [takeFirst] at h
    split_ifs at h with hb
    · cases h
      exact ⟨hb, [], bs, rfl, rfl, by simp⟩
    · obtain ⟨⟨c, zs⟩, hzs, heq⟩ := Option.map_eq_some_iff.mp h
      cases heq
      obtain ⟨ha, pre, post, rfl, rfl, hpre⟩ := ih hzs
      exact ⟨ha, b :: pre, post, rfl, rfl,
        List.forall_mem_cons.mpr ⟨Bool.eq_false_iff.mpr hb, hpre⟩⟩

theorem takeFirst_perm {p : α → Bool} {xs ys : List α} {a : α}
    (h : takeFirst p xs = some (a, ys)) : xs.Perm (a :: ys) := by
  obtain ⟨-, pre, post, rfl, rfl, -⟩ := takeFirst_eq_some h
  exact List.perm_middle

theorem takeFirst_sublist {p : α → Bool} {xs ys : List α} {a : α}
    (h : takeFirst p xs = some (a, ys)) : ys.Sublist xs := by
  obtain ⟨-, pre, post, rfl, rfl, -⟩ := takeFirst_eq_some h
  exact (List.sublist_cons_self a post).append_left pre

theorem find?_of_takeFirst {p : α → Bool} {xs ys : List α} {a : α}
    (h : takeFirst p xs = some (a, ys)) : xs.find? p = some a := by
  obtain ⟨ha, pre, post, rfl, -, hpre⟩ := takeFirst_eq_some h
  refine List.find?_eq_some_iff_append.mpr ⟨ha, pre, post, rfl, fun b hb => ?_⟩
  rw [hpre b hb]
  rfl

/-- The first entry that passes is changed, if there is one. -/
def updateFirst (p : α → Bool) (f : α → α) (xs : List α) : List α :=
  (modifyFirst p f xs).getD xs

theorem updateFirst_cases (p : α → Bool) (f : α → α) (xs : List α) :
    (updateFirst p f xs = xs ∧ ∀ a ∈ xs, p a = false)
      ∨ ∃ pre a post, xs = pre ++ a :: post ∧ (∀ b ∈ pre, p b = false) ∧ p a = true
        ∧ updateFirst p f xs = pre ++ f a :: post := by
  unfold updateFirst
  cases h : modifyFirst p f xs with
  | none => exact Or.inl ⟨rfl, modifyFirst_eq_none h⟩
  | some ys =>
    obtain ⟨pre, a, post, hxs, hpre, ha, hys⟩ := modifyFirst_eq_some h
    exact Or.inr ⟨pre, a, post, hxs, hpre, ha, hys⟩

/-- What the change leaves alone stays, entry by entry. -/
theorem map_updateFirst {p : α → Bool} {f : α → α} {g : α → β} (h : ∀ a, g (f a) = g a)
    (xs : List α) : (updateFirst p f xs).map g = xs.map g := by
  rcases updateFirst_cases p f xs with ⟨heq, -⟩ | ⟨pre, a, post, rfl, -, -, heq⟩
  · rw [heq]
  · rw [heq, List.map_append, List.map_append, List.map_cons, List.map_cons, h]

/-- What holds of every entry holds of the changed ones, if the change keeps it. -/
theorem forall_updateFirst {p : α → Bool} {f : α → α} {P : α → Prop} {xs : List α}
    (h : ∀ a ∈ xs, P a) (hf : ∀ a ∈ xs, p a = true → P (f a)) : ∀ a ∈ updateFirst p f xs, P a := by
  rcases updateFirst_cases p f xs with ⟨heq, -⟩ | ⟨pre, a, post, rfl, -, ha, heq⟩
  · rw [heq]
    exact h
  · rw [heq]
    intro b hb
    rcases List.mem_append.mp hb with hpre | hrest
    · exact h b (List.mem_append_left _ hpre)
    · rcases List.mem_cons.mp hrest with rfl | hpost
      · exact hf a (by simp) ha
      · exact h b (List.mem_append_right _ (List.mem_cons_of_mem _ hpost))

end Queue
