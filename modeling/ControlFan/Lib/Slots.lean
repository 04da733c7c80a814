import Mathlib.Data.List.Forall2
import Mathlib.Data.List.Nodup
import Mathlib.Data.List.Perm.Basic
import Mathlib.Tactic.SplitIfs

/-!
# Slots — tables of a fixed size

A table is an array of `n` slots that is searched from its start. A slot is free or holds an
entry under a key; `key` says which.

* **`Table.modifyFirst`** — change the first slot that a test accepts, if there is one;
  **`modifyFirst_cases`** says everything that it can do;
* **`keys`** — the keys in use, with the lemmas that follow them through the changes of a
  table: **`keys_fill`** for an entry put into a free slot, **`keys_sublist`** for slots that are
  freed;
* **`Represents`** — the table as a finite map, with **`Represents.replace`** for a change of one
  slot.
-/

namespace Slots

variable {α κ : Type}

structure Table (α : Type) (n : Nat) where
  slots : List α
  hlen : slots.length = n
  deriving DecidableEq, Repr

variable {n : Nat}

/-- The table with the same content in every slot. -/
def Table.fill (n : Nat) (a : α) : Table α n := ⟨List.replicate n a, List.length_replicate⟩

def Table.map (t : Table α n) (f : α → α) : Table α n :=
  ⟨t.slots.map f, by rw [List.length_map, t.hlen]⟩

def Table.modify (t : Table α n) (i : Nat) (f : α → α) : Table α n :=
  ⟨t.slots.modify i f, by rw [List.length_modify, t.hlen]⟩

/-! ## The first slot -/

def modifyFirst (p : α → Bool) (f : α → α) : List α → Option (List α)
  | [] => none
  | a :: as => if p a then some (f a :: as) else (modifyFirst p f as).map (a :: ·)

theorem length_modifyFirst {p : α → Bool} {f : α → α} {xs ys : List α}
    (h : modifyFirst p f xs = some ys) : ys.length = xs.length := by
  induction xs generalizing ys with
  | nil => exact absurd h (by simp [modifyFirst])
  | cons a as ih =>
    rw [modifyFirst] at h
    split_ifs at h
    · cases h
      rfl
    · obtain ⟨zs, hzs, rfl⟩ := Option.map_eq_some_iff.mp h
      rw [List.length_cons, List.length_cons, ih hzs]

def Table.modifyFirst (t : Table α n) (p : α → Bool) (f : α → α) : Option (Table α n) :=
  match h : Slots.modifyFirst p f t.slots with
  | none => none
  | some ys => some ⟨ys, (length_modifyFirst h).trans t.hlen⟩

theorem modifyFirst_eq_none {p : α → Bool} {f : α → α} {xs : List α}
    (h : modifyFirst p f xs = none) : ∀ a ∈ xs, p a = false := by
  induction xs with
  | nil => intro a ha; exact absurd ha List.not_mem_nil
  | cons a as ih =>
    rw [modifyFirst] at h
    split_ifs at h with ha
    exact List.forall_mem_cons.mpr ⟨Bool.eq_false_iff.mpr ha, ih (Option.map_eq_none_iff.mp h)⟩

theorem modifyFirst_eq_some {p : α → Bool} {f : α → α} {xs ys : List α}
    (h : modifyFirst p f xs = some ys) :
    ∃ pre a post, xs = pre ++ a :: post ∧ (∀ b ∈ pre, p b = false) ∧ p a = true
      ∧ ys = pre ++ f a :: post := by
  induction xs generalizing ys with
  | nil => exact absurd h (by simp [modifyFirst])
  | cons a as ih =>
    rw [modifyFirst] at h
    split_ifs at h with ha
    · cases h
      exact ⟨[], a, as, rfl, by simp, ha, rfl⟩
    · obtain ⟨zs, hzs, rfl⟩ := Option.map_eq_some_iff.mp h
      obtain ⟨pre, b, post, rfl, hpre, hb, rfl⟩ := ih hzs
      exact ⟨a :: pre, b, post, rfl, List.forall_mem_cons.mpr ⟨Bool.eq_false_iff.mpr ha, hpre⟩, hb,
        rfl⟩

/-- **The first slot that passes the test.** Either no slot does, or the table splits at it and
only it changes. -/
theorem Table.modifyFirst_cases (t : Table α n) (p : α → Bool) (f : α → α) :
    (t.modifyFirst p f = none ∧ ∀ a ∈ t.slots, p a = false)
      ∨ ∃ pre a post t', t.slots = pre ++ a :: post ∧ (∀ b ∈ pre, p b = false) ∧ p a = true
        ∧ t.modifyFirst p f = some t' ∧ t'.slots = pre ++ f a :: post := by
  unfold Table.modifyFirst
  split
  next h => exact Or.inl ⟨rfl, modifyFirst_eq_none h⟩
  next ys h =>
    obtain ⟨pre, a, post, hslots, hpre, ha, hys⟩ := modifyFirst_eq_some h
    exact Or.inr ⟨pre, a, post, _, hslots, hpre, ha, rfl, hys⟩

/-! ## Keys -/

/-- The keys in use, in the order of their slots. -/
def keys (key : α → Option κ) (xs : List α) : List κ := xs.filterMap key

variable {key : α → Option κ}

theorem mem_keys {k : κ} {xs : List α} : k ∈ keys key xs ↔ ∃ a ∈ xs, key a = some k :=
  List.mem_filterMap

theorem keys_append_cons (pre post : List α) (a : α) :
    keys key (pre ++ a :: post) = keys key pre ++ ((key a).toList ++ keys key post) := by
  unfold keys
  rw [List.filterMap_append, List.filterMap_cons]
  cases key a <;> rfl

theorem keys_middle (pre post : List α) (a : α) :
    (keys key (pre ++ a :: post)).Perm ((key a).toList ++ keys key (pre ++ post)) := by
  rw [keys_append_cons, show keys key (pre ++ post) = keys key pre ++ keys key post from
    List.filterMap_append]
  cases key a with
  | none => exact List.Perm.refl _
  | some k => exact List.perm_middle

/-- An entry put into a free slot: one key more. -/
theorem keys_fill {pre post : List α} {a b : α} {k : κ} (ha : key a = none) (hb : key b = some k) :
    (keys key (pre ++ b :: post)).Perm (k :: keys key (pre ++ a :: post)) := by
  have hold : (keys key (pre ++ a :: post)).Perm _ := keys_middle pre post a
  have hnew : (keys key (pre ++ b :: post)).Perm _ := keys_middle pre post b
  rw [ha] at hold
  rw [hb] at hnew
  exact hnew.trans (hold.symm.cons k)

/-- Freeing slots, and changing others without touching their keys. -/
theorem keys_sublist {xs ys : List α}
    (h : List.Forall₂ (fun a b => key b = none ∨ key b = key a) xs ys) :
    (keys key ys).Sublist (keys key xs) := by
  induction h with
  | nil => exact List.Sublist.slnil
  | @cons a b as bs hab _ ih =>
    unfold keys at ih ⊢
    rw [List.filterMap_cons, List.filterMap_cons]
    rcases hab with hfree | hsame
    · rw [hfree]
      cases key a with
      | none => exact ih
      | some k => exact ih.cons k
    · rw [hsame]
      cases key a with
      | none => exact ih
      | some k => exact ih.cons_cons k

theorem forall₂_map {R : α → α → Prop} {f : α → α} (h : ∀ a, R a (f a)) (xs : List α) :
    List.Forall₂ R xs (xs.map f) :=
  List.forall₂_map_right_iff.mpr (List.forall₂_same.mpr fun a _ => h a)

theorem modify_middle (f : α → α) (pre post : List α) (a : α) :
    (pre ++ a :: post).modify pre.length f = pre ++ f a :: post := by
  induction pre with
  | nil => rfl
  | cons b pre ih =>
    rw [List.cons_append, List.length_cons, List.modify_succ_cons, ih, List.cons_append]

theorem forall₂_modify {R : α → α → Prop} {f : α → α} (hrefl : ∀ a, R a a) (h : ∀ a, R a (f a))
    (xs : List α) (i : Nat) : List.Forall₂ R xs (xs.modify i f) := by
  induction xs generalizing i with
  | nil => rw [List.modify_nil]; exact List.Forall₂.nil
  | cons a as ih =>
    cases i with
    | zero =>
      rw [List.modify_zero_cons]
      exact List.Forall₂.cons (h a) (List.forall₂_same.mpr fun b _ => hrefl b)
    | succ i =>
      rw [List.modify_succ_cons]
      exact List.Forall₂.cons (hrefl a) (ih i)

/-! ## Finite maps -/

section Maps

variable {ν : Type} [DecidableEq κ]

/-- The slots hold the finite map `m`, every key in one slot. `entry` reads a slot. -/
structure Represents (entry : α → Option (κ × ν)) (xs : List α) (m : κ → Option ν) : Prop where
  nodup : (keys (fun a => (entry a).map Prod.fst) xs).Nodup
  spec : ∀ k v, m k = some v ↔ ∃ a ∈ xs, entry a = some (k, v)

variable {entry : α → Option (κ × ν)} {m : κ → Option ν}

omit [DecidableEq κ] in
theorem Represents.mem_keys_iff {xs : List α} (h : Represents entry xs m) {k : κ} :
    k ∈ keys (fun a => (entry a).map Prod.fst) xs ↔ (m k).isSome := by
  rw [mem_keys, Option.isSome_iff_exists]
  constructor
  · rintro ⟨a, ha, hkey⟩
    obtain ⟨⟨k', v⟩, hentry, rfl⟩ := Option.map_eq_some_iff.mp hkey
    exact ⟨v, (h.spec k' v).mpr ⟨a, ha, hentry⟩⟩
  · rintro ⟨v, hv⟩
    obtain ⟨a, ha, hentry⟩ := (h.spec k v).mp hv
    exact ⟨a, ha, by rw [hentry]; rfl⟩

omit [DecidableEq κ] in
/-- The slots besides one that is free, or that holds the key `k`: their keys are different, and `k`
is none of them. -/
theorem Represents.others {pre post : List α} {a : α} {k : κ}
    (h : Represents entry (pre ++ a :: post) m)
    (ha : (entry a = none ∧ m k = none) ∨ ∃ v₀, entry a = some (k, v₀)) :
    (keys (fun a => (entry a).map Prod.fst) (pre ++ post)).Nodup
      ∧ k ∉ keys (fun a => (entry a).map Prod.fst) (pre ++ post) := by
  have hmiddle : (keys (fun a => (entry a).map Prod.fst) (pre ++ a :: post)).Perm
      (((entry a).map Prod.fst).toList ++ keys (fun a => (entry a).map Prod.fst) (pre ++ post)) :=
    keys_middle pre post a
  have hnodup := hmiddle.nodup_iff.mp h.nodup
  rcases ha with ⟨hfree, hnone⟩ | ⟨v₀, hentry⟩
  · rw [hfree] at hnodup
    refine ⟨hnodup, fun hmem => ?_⟩
    have hsome : k ∈ keys (fun a => (entry a).map Prod.fst) (pre ++ a :: post) :=
      hmiddle.mem_iff.mpr (List.mem_append_right _ hmem)
    rw [h.mem_keys_iff, hnone] at hsome
    exact absurd hsome (by simp)
  · rw [hentry] at hnodup
    exact ⟨(List.nodup_cons.mp hnodup).2, (List.nodup_cons.mp hnodup).1⟩

theorem exists_mem_middle {P : α → Prop} (pre post : List α) (a : α) :
    (∃ b ∈ pre ++ a :: post, P b) ↔ P a ∨ ∃ b ∈ pre ++ post, P b := by
  simp only [List.perm_middle.mem_iff, List.mem_cons, or_and_right, exists_or, exists_eq_left]

/-- **One slot changes.** A slot that is free, or that holds the key `k`, is made to hold `k` with
the value `v`, or nothing: the map changes at `k` only. -/
theorem Represents.replace {pre post : List α} {a b : α} {k : κ} {v : Option ν}
    (h : Represents entry (pre ++ a :: post) m)
    (ha : (entry a = none ∧ m k = none) ∨ ∃ v₀, entry a = some (k, v₀))
    (hb : entry b = v.map fun v => (k, v)) :
    Represents entry (pre ++ b :: post) (Function.update m k v) := by
  obtain ⟨hnodup, hnot⟩ := h.others ha
  constructor
  · have hmiddle : (keys (fun a => (entry a).map Prod.fst) (pre ++ b :: post)).Perm
        (((entry b).map Prod.fst).toList ++ keys (fun a => (entry a).map Prod.fst) (pre ++ post)) :=
      keys_middle pre post b
    refine hmiddle.nodup_iff.mpr ?_
    rw [hb]
    cases v with
    | none => exact hnodup
    | some v => exact List.nodup_cons.mpr ⟨hnot, hnodup⟩
  · intro k' w
    rw [exists_mem_middle, hb]
    rcases eq_or_ne k' k with rfl | hne
    · -- only the new slot can hold `k`
      have hothers : ¬ ∃ c ∈ pre ++ post, entry c = some (k', w) := by
        rintro ⟨c, hc, hentry⟩
        exact hnot (mem_keys.mpr ⟨c, hc, by rw [hentry]; rfl⟩)
      rw [Function.update_self, or_iff_left hothers]
      cases v with
      | none => simp
      | some v => simp
    · -- neither the old slot nor the new one holds `k'`
      have hold : entry a ≠ some (k', w) := by
        rcases ha with ⟨hfree, -⟩ | ⟨v₀, hv₀⟩
        · rw [hfree]
          simp
        · rw [hv₀]
          exact fun heq => hne (Prod.mk.inj (Option.some_inj.mp heq)).1.symm
      have hnew : v.map (fun v => (k, v)) ≠ some (k', w) := by
        intro heq
        obtain ⟨v', -, hpair⟩ := Option.map_eq_some_iff.mp heq
        exact hne (Prod.mk.inj hpair).1.symm
      rw [Function.update_of_ne hne, h.spec, exists_mem_middle, or_iff_right hold,
        or_iff_right hnew]

end Maps

end Slots
