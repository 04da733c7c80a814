import ControlFan.Lib.Recency
import ControlFan.Log.Cache

/-!
# Log — which tags are cached

* **`Represents`** — the heap against its entries in the order of their generations;
* **`represents_levelFor`**, **`represents_levelSet`** — what the calls do to that order: a lookup
  is a use of a recency list, and no other call moves an entry;
* **`run_recency`** — until the generations run out no `assert` fails, and the tags in the cache
  are those of the list after the same uses;
* **`run_retained`** — a tag once used stays cached while fewer than 31 others are looked up.
-/

namespace ControlFan.Log

open CString Machine

/-! ## The order of the entries -/

/-- The cache holds the entries `es`, the oldest one first. -/
structure Represents (c : LogCache) (es : List CachedTagEntry) : Prop where
  ordered : Heap.Ordered (·.generation) c.entries c.entryCount
  perm : es.Perm c.cached
  sorted : es.Pairwise (·.generation < ·.generation)
  below : ∀ e ∈ es, e.generation < c.maxGeneration

variable {c c' : LogCache} {es es₁ es₂ : List CachedTagEntry} {e : CachedTagEntry}

theorem Represents.length (h : Represents c es) : es.length = c.entryCount :=
  h.perm.length_eq.trans (length_cached c)

theorem Represents.scan_isSome (h : Represents c es) (found : CachedTagEntry → Bool) :
    (c.scan found 0).isSome = true := by
  refine Log.scan_isSome h.ordered ?_ found 0
  refine (h.perm.map _).nodup_iff.mp ?_
  exact List.pairwise_map.mpr (h.sorted.imp fun hlt => Nat.ne_of_lt hlt)

/-- A new entry behind all others. -/
theorem pairwise_append_newest (hsorted : es.Pairwise (·.generation < ·.generation))
    (hbelow : ∀ x ∈ es, x.generation < e.generation) :
    (es ++ [e]).Pairwise (·.generation < ·.generation) :=
  List.pairwise_append.mpr ⟨hsorted, List.pairwise_singleton _ _, fun x hx _ hy =>
    List.mem_singleton.mp hy ▸ hbelow x hx⟩

theorem succ_mod_of_lt {g : Nat} (h : g < generationBits) : (g + 1) % 2 ^ 32 = g + 1 := by
  unfold generationBits at h
  exact Nat.mod_eq_of_lt (by omega)

theorem perm_others {pre post : List CachedTagEntry}
    (h : (es₁ ++ e :: es₂).Perm (pre ++ e :: post)) : (es₁ ++ es₂).Perm (pre ++ post) :=
  (List.perm_middle.symm.trans (h.trans List.perm_middle)).cons_inv

/-- The entry at `i` makes room for the newest one. -/
theorem Represents.moved {i : Fin tagCacheSize} (h : Represents c (es₁ ++ c.entry i :: es₂))
    (hfull : c.entryCount = tagCacheSize) (hroom : c.maxGeneration < generationBits)
    (hgen : e.generation = c.maxGeneration) : Represents (c.moved i e) (es₁ ++ es₂ ++ [e]) := by
  have hrest : ∀ x ∈ es₁ ++ es₂, x.generation < c.maxGeneration := fun x hx =>
    h.below x ((List.mem_append.mp hx).elim (List.mem_append_left _)
      fun hx => List.mem_append_right _ (List.mem_cons_of_mem _ hx))
  have hmax : (c.moved i e).maxGeneration = c.maxGeneration + 1 := succ_mod_of_lt hroom
  obtain ⟨pre, post, hcached, hmoved⟩ := cached_moved hfull i e
  refine ⟨?_, ?_, ?_, ?_⟩
  · have hordered := h.ordered
    rw [hfull] at hordered
    show Heap.Ordered _ _ c.entryCount
    rw [hfull]
    refine ordered_heapBubbleDown _ _ i.isLt (hordered.set i.isLt ?_)
    intro j hj
    have hmem := getElem_mem_cached (c := c) (i := ⟨j, hj⟩) (hj.trans_eq hfull.symm)
    exact hgen ▸ (h.below _ (h.perm.mem_iff.mpr hmem)).le
  · have hothers : (es₁ ++ es₂).Perm (pre ++ post) := perm_others (hcached ▸ h.perm)
    refine List.Perm.trans ?_ hmoved.symm
    exact (List.perm_append_singleton _ _).trans ((hothers.cons e).trans List.perm_middle.symm)
  · refine pairwise_append_newest ?_ (hgen ▸ hrest)
    exact h.sorted.sublist (List.Sublist.append_left (List.sublist_cons_self _ _) _)
  · rw [hmax]
    intro x hx
    rcases List.mem_append.mp hx with hx | hx
    · exact Nat.lt_succ_of_lt (hrest x hx)
    · rw [List.mem_singleton.mp hx, hgen]
      exact Nat.lt_succ_self _

/-- A new entry in a cache with room. -/
theorem Represents.added (h : Represents c es) (hlt : c.entryCount < tagCacheSize)
    (hroom : c.maxGeneration < generationBits) (tag : UInt32) (level : EspLogLevel) :
    Represents (c.addToCache tag level) (es ++ [⟨tag, level, c.maxGeneration⟩]) := by
  have hgen : c.maxGeneration % generationBits = c.maxGeneration := Nat.mod_eq_of_lt hroom
  have hcached := cached_addToCache hlt tag level
  rw [hgen] at hcached
  have hadded : c.addToCache tag level
      = { c with
          maxGeneration := (c.maxGeneration + 1) % 2 ^ 32
          entries := c.entries.set c.entryCount ⟨tag, level, c.maxGeneration % generationBits⟩
          entryCount := c.entryCount + 1
          entryCount_le := hlt } := dif_pos hlt
  refine ⟨?_, ?_, pairwise_append_newest h.sorted h.below, ?_⟩
  · rw [hadded, hgen]
    refine h.ordered.set_last hlt fun j hj hcount => ?_
    have hmem := getElem_mem_cached (c := c) (i := ⟨j, hj⟩) hcount
    exact (h.below _ (h.perm.mem_iff.mpr hmem)).le
  · rw [hcached]
    exact h.perm.append_right _
  · have hmax : (c.addToCache tag level).maxGeneration = c.maxGeneration + 1 := by
      rw [hadded]
      exact succ_mod_of_lt hroom
    rw [hmax]
    intro x hx
    rcases List.mem_append.mp hx with hx | hx
    · exact Nat.lt_succ_of_lt (h.below x hx)
    · rw [List.mem_singleton.mp hx]
      exact Nat.lt_succ_self _

/-- The entry at index 0 is the oldest one. -/
theorem Represents.oldest (h : Represents c es) (hfull : c.entryCount = tagCacheSize) :
    es = c.entries[0] :: es.tail := by
  have hpos : 0 < c.entryCount := hfull ▸ Nat.zero_lt_succ _
  cases es with
  | nil => exact absurd (h.length.symm.trans rfl) hpos.ne'
  | cons first es =>
    have hroot : c.entries[0] ∈ first :: es :=
      h.perm.mem_iff.mpr (getElem_mem_cached (c := c) (i := ⟨0, Nat.zero_lt_succ _⟩) hpos)
    rcases List.mem_cons.mp hroot with heq | hmem
    · rw [heq]
      rfl
    · -- the first entry would be older than the root
      have holder := (List.pairwise_cons.mp h.sorted).1 _ hmem
      obtain ⟨j, hj, hget⟩ := List.getElem_of_mem (h.perm.mem_iff.mp List.mem_cons_self)
      have hlt : j < c.entryCount := hj.trans_eq (length_cached c)
      have hj' := hlt.trans_le c.entryCount_le
      have hle := h.ordered.root_le (Nat.zero_lt_succ _) j hj' hlt
      rw [← hget] at holder
      have hentry : c.cached[j] = c.entries[j] := getElem_cached (c := c) (i := ⟨j, hj'⟩) hj
      rw [hentry] at holder
      exact absurd (holder.trans_le hle) (Nat.lt_irrefl _)

/-! ## What the calls do -/

/-- The tags in the cache, the oldest one first, none of them twice. -/
def Queue (c : LogCache) (q : List UInt32) : Prop :=
  ∃ es, Represents c es ∧ es.map (·.tag) = q ∧ q.Nodup

variable {q : List UInt32} {tag : UInt32}

theorem getCachedLogLevel_isSome (h : Queue c q) (tag : UInt32) :
    ∃ r, c.getCachedLogLevel tag = some r := by
  obtain ⟨es, hes, -⟩ := h
  unfold LogCache.getCachedLogLevel
  obtain ⟨r, hr⟩ := Option.isSome_iff_exists.mp (hes.scan_isSome fun e => e.tag == tag)
  rw [hr]
  cases r with
  | none => exact ⟨_, rfl⟩
  | some i =>
    dsimp only
    split_ifs
    · exact ⟨_, rfl⟩
    · exact ⟨_, rfl⟩

theorem Queue.mem_iff (h : Queue c q) : tag ∈ q ↔ ∃ e ∈ c.cached, e.tag = tag := by
  obtain ⟨es, hes, rfl, -⟩ := h
  rw [List.mem_map]
  exact exists_congr fun e => and_congr_left fun _ => hes.perm.mem_iff

theorem Queue.length (h : Queue c q) : q.length = c.entryCount := by
  obtain ⟨es, hes, rfl, -⟩ := h
  exact (List.length_map _).trans hes.length

/-- A tag that is found: a use of the list. -/
theorem Queue.hit (h : Queue c q) (hroom : c.maxGeneration < generationBits)
    {level : EspLogLevel} (hget : c.getCachedLogLevel tag = some (c', some level)) :
    Queue c' (Recency.use tagCacheSize q tag) ∧ c'.maxGeneration ≤ c.maxGeneration + 1 := by
  rcases getCachedLogLevel_cases hget with ⟨hnone, -⟩ | ⟨i, hi, htag, -, rfl⟩
  · cases hnone
  · have hmem : tag ∈ q := h.mem_iff.mpr ⟨_, getElem_mem_cached hi, htag⟩
    have huse := Recency.nodup_use h.choose_spec.2.2 tagCacheSize tag
    have hlen := h.length
    obtain ⟨es, hes, rfl, hnodup⟩ := h
    unfold Recency.use at huse ⊢
    rw [if_pos hmem, hlen] at huse ⊢
    split_ifs at huse ⊢ with hfull
    · obtain ⟨es₁, es₂, rfl⟩ := List.append_of_mem (hes.perm.mem_iff.mpr (getElem_mem_cached hi))
      refine ⟨⟨_, hes.moved hfull hroom (Nat.mod_eq_of_lt hroom), ?_, huse⟩,
        (succ_mod_of_lt hroom).le⟩
      rw [List.map_append, List.map_cons] at hnodup ⊢
      have hfirst : tag ∉ es₁.map (·.tag) := fun h =>
        (List.nodup_append.mp hnodup).2.2 _ h _ List.mem_cons_self htag.symm
      rw [List.map_append, List.map_append, List.map_cons, List.erase_append_right _ hfirst, htag,
        List.erase_cons_head]
      rfl
    · exact ⟨⟨es, hes, rfl, hnodup⟩, Nat.le_succ _⟩

/-- A tag that is not found, and is then added: a use of the list. -/
theorem Queue.miss (h : Queue c q) (hroom : c.maxGeneration < generationBits)
    (hget : c.getCachedLogLevel tag = some (c', none)) (level : EspLogLevel) :
    Queue (c'.addToCache tag level) (Recency.use tagCacheSize q tag)
      ∧ (c'.addToCache tag level).maxGeneration ≤ c.maxGeneration + 1 := by
  rcases getCachedLogLevel_cases hget with ⟨-, rfl, hne⟩ | ⟨i, -, -, hsome, -⟩
  · have hmem : tag ∉ q := fun hmem =>
      let ⟨e, he, htag⟩ := h.mem_iff.mp hmem
      hne e he htag
    have huse := Recency.nodup_use h.choose_spec.2.2 tagCacheSize tag
    have hlen := h.length
    obtain ⟨es, hes, rfl, hnodup⟩ := h
    unfold Recency.use at huse ⊢
    rw [if_neg hmem, hlen] at huse ⊢
    rcases c'.entryCount_le.lt_or_eq with hlt | hfull
    · rw [if_neg hlt.ne] at huse ⊢
      refine ⟨⟨_, hes.added hlt hroom tag level, ?_, huse⟩, ?_⟩
      · exact List.map_append
      · unfold LogCache.addToCache
        dsimp only
        rw [dif_pos hlt]
        exact (succ_mod_of_lt hroom).le
    · rw [if_pos hfull] at huse ⊢
      rw [addToCache_full hfull]
      have hes' : Represents c' ([] ++ c'.entry ⟨0, by decide⟩ :: es.tail) :=
        (hes.oldest hfull) ▸ hes
      refine ⟨⟨_, hes'.moved hfull hroom (Nat.mod_eq_of_lt hroom), ?_, huse⟩,
        (succ_mod_of_lt hroom).le⟩
      rw [List.map_append, List.nil_append, List.map_tail]
      rfl
  · cases hsome

/-- The level of an entry is no part of the order. -/
theorem Represents.setLevel {i : Fin tagCacheSize} (h : Represents c (es₁ ++ c.entry i :: es₂))
    (hi : i < c.entryCount) (level : EspLogLevel) :
    Represents (c.put i { c.entry i with level := level })
      (es₁ ++ { c.entry i with level := level } :: es₂) := by
  have hgens : (es₁ ++ { c.entries[i] with level := level } :: es₂).map (·.generation)
      = (es₁ ++ c.entries[i] :: es₂).map (·.generation) := by
    rw [List.map_append, List.map_append]
    rfl
  have hgen (j : Nat) (hj : j < tagCacheSize) :
      ((c.entries.set i { c.entries[i] with level := level })[j]).generation
        = c.entries[j].generation := by
    rw [Vector.getElem_set]
    split_ifs with hij
    · subst hij
      rfl
    · rfl
  refine ⟨?_, ?_, ?_, ?_⟩
  · intro j hj hpos hcount
    dsimp only
    rw [hgen, hgen]
    exact h.ordered j hj hpos hcount
  · obtain ⟨pre, post, hcached, hset⟩ := cached_set hi { c.entries[i] with level := level }
    have hothers : (es₁ ++ es₂).Perm (pre ++ post) := perm_others (hcached ▸ h.perm)
    rw [hset]
    exact List.perm_middle.trans ((hothers.cons _).trans List.perm_middle.symm)
  · have hsorted := List.pairwise_map.mpr h.sorted
    rw [← hgens] at hsorted
    exact List.pairwise_map.mp hsorted
  · intro x hx
    have hmem := List.mem_map_of_mem (f := (·.generation)) hx
    rw [hgens] at hmem
    obtain ⟨y, hy, heq⟩ := List.mem_map.mp hmem
    exact heq ▸ h.below y hy

theorem Queue.setLevel (h : Queue c q) (text : UInt32 → List UInt8) (name : List UInt8)
    (level : EspLogLevel) :
    ∃ c', c.setLevel text name level = some c' ∧ Queue c' q
      ∧ c'.maxGeneration = c.maxGeneration := by
  obtain ⟨es, hes, rfl, hnodup⟩ := h
  unfold LogCache.setLevel
  obtain ⟨r, hr⟩ :=
    Option.isSome_iff_exists.mp (hes.scan_isSome fun e => strcmp (text e.tag) name == 0)
  rw [hr]
  cases r with
  | none => exact ⟨c, rfl, ⟨es, hes, rfl, hnodup⟩, rfl⟩
  | some i =>
    obtain ⟨hi, -⟩ := scan_some hr
    obtain ⟨es₁, es₂, rfl⟩ := List.append_of_mem (hes.perm.mem_iff.mpr (getElem_mem_cached hi))
    refine ⟨_, rfl, ⟨_, hes.setLevel hi level, ?_, hnodup⟩, rfl⟩
    rw [List.map_append, List.map_append]
    rfl

theorem queue_cleared (c : LogCache) :
    Queue { c with entryCount := 0, entryCount_le := Nat.zero_le _, maxGeneration := 0 } [] :=
  ⟨[], ⟨fun _ _ _ h => absurd h (Nat.not_lt_zero _), List.Perm.refl _, List.Pairwise.nil,
    fun _ h => absurd h List.not_mem_nil⟩, rfl, List.nodup_nil⟩

/-! ## Runs -/

/-- The call resets the level of all tags, and with it the cache. -/
def Input.clears (text : UInt32 → List UInt8) : Input → Bool
  | .levelSet tag _ _ => strcmp (text tag) (ascii ['*']) == 0
  | _ => false

/-- What a call does to the tags in the cache. -/
def uses (text : UInt32 → List UInt8) (q : List UInt32) (i : Input) : List UInt32 :=
  if i.clears text then []
  else
    match i.tag with
    | some tag => Recency.use tagCacheSize q tag
    | none => q

/-- The lookups since the cache was cleared. -/
def lookups (text : UInt32 → List UInt8) (k : Nat) (i : Input) : Nat :=
  if i.clears text then 0 else if i.tag.isSome then k + 1 else k

/-- No more lookups between two resets than there are generations. -/
def Few (text : UInt32 → List UInt8) (k : Nat) (inputs : List Input) : Prop :=
  AllSteps (silent (lookups text)) (fun k _ => k < generationBits) k inputs

variable {text : UInt32 → List UInt8} {s : EspLog} {k : Nat}

theorem Queue.levelFor (h : Queue s.cache q) (hroom : s.cache.maxGeneration < generationBits)
    (text : UInt32 → List UInt8) (tag : UInt32) :
    ∃ s' level, s.levelFor text tag = some (s', level)
      ∧ Queue s'.cache (Recency.use tagCacheSize q tag)
      ∧ s'.cache.maxGeneration ≤ s.cache.maxGeneration + 1 := by
  unfold EspLog.levelFor
  obtain ⟨⟨c, found⟩, hget⟩ := getCachedLogLevel_isSome h tag
  rw [hget]
  cases found with
  | some level => exact ⟨_, _, rfl, h.hit hroom hget⟩
  | none => exact ⟨_, _, rfl, h.miss hroom hget _⟩

/-- **One call.** -/
theorem queue_step (h : Queue s.cache q) (hk : s.cache.maxGeneration ≤ k)
    (hroom : k < generationBits) (i : Input) :
    ∃ s', (EspLog.step text (some s) i).1 = some s' ∧ Queue s'.cache (uses text q i)
      ∧ s'.cache.maxGeneration ≤ lookups text k i := by
  cases i with
  | setVprintf func => exact ⟨_, rfl, h, hk⟩
  | writev level tag locked =>
    cases locked with
    | false => exact ⟨s, rfl, h, hk⟩
    | true =>
      obtain ⟨s', levelForTag, hfor, hqueue, hmax⟩ := h.levelFor (hk.trans_lt hroom) text tag
      refine ⟨s', ?_, hqueue, hmax.trans (Nat.succ_le_succ hk)⟩
      unfold EspLog.step EspLog.writev
      dsimp only
      rw [if_pos rfl, hfor]
      rfl
  | levelSet tag level alloc =>
    unfold EspLog.step EspLog.levelSet uses lookups Input.clears
    dsimp only
    by_cases hstar : strcmp (text tag) (ascii ['*']) = 0
    · rw [if_pos hstar, if_pos (beq_iff_eq.mpr hstar), if_pos (beq_iff_eq.mpr hstar)]
      exact ⟨_, rfl, queue_cleared s.cache, le_rfl⟩
    · rw [if_neg hstar, if_neg (fun heq => hstar (beq_iff_eq.mp heq)),
        if_neg (fun heq => hstar (beq_iff_eq.mp heq))]
      cases setTags s.tags (text tag) level alloc with
      | none => exact ⟨s, rfl, h, hk⟩
      | some tags =>
        obtain ⟨c, hset, hqueue, hmax⟩ := h.setLevel text (text tag) level
        refine ⟨{ s with tags, cache := c }, ?_, hqueue, hmax.le.trans hk⟩
        dsimp only
        rw [hset]
        rfl

/-- Induction on the calls. -/
theorem queue_run (h : Queue s.cache q) (hk : s.cache.maxGeneration ≤ k) {inputs : List Input}
    (hfew : Few text k inputs) :
    ∃ s', (run (EspLog.step text) (some s) inputs).1 = some s'
      ∧ Queue s'.cache (inputs.foldl (uses text) q)
      ∧ s'.cache.maxGeneration ≤ (run (silent (lookups text)) k inputs).1 := by
  induction inputs generalizing s q k with
  | nil => exact ⟨s, rfl, h, hk⟩
  | cons i inputs ih =>
    obtain ⟨s₁, hstep, hqueue, hmax⟩ := queue_step h hk hfew.1 i
    rw [run_cons, run_cons, hstep]
    exact ih hqueue hmax hfew.2

theorem queue_init (printFunc : UInt32) : Queue (EspLog.init printFunc).cache [] :=
  queue_cleared {}

/-- **The cache is a recency list.** Until the generations run out no `assert` fails, and the
tags in the cache are those of a list of 31 that goes through the same uses. A hit counts as one only
once the cache is full: until then the tags stand in the order of their first lookups. -/
theorem run_recency (text : UInt32 → List UInt8) (printFunc : UInt32) {inputs : List Input}
    (hfew : Few text 0 inputs) :
    ∃ s, (run (EspLog.step text) (some (.init printFunc)) inputs).1 = some s
      ∧ Queue s.cache (inputs.foldl (uses text) []) := by
  obtain ⟨s, hrun, hqueue, -⟩ := queue_run (queue_init printFunc) (Nat.le_refl 0) hfew
  exact ⟨s, hrun, hqueue⟩

/-- Messages under tags that follow each other. -/
def fillCalls (first count : Nat) : List Input :=
  (List.range count).map fun i => .writev .info (UInt32.ofNat (first + i)) true

theorem run_recency_fillCalls :
    ∃ s, (run (EspLog.step fun _ => []) (some (.init 7)) (fillCalls 1 32)).1 = some s
      ∧ Queue s.cache ((List.range 31).map fun i => UInt32.ofNat (2 + i)) := by
  have hfew : Few (fun _ => []) 0 (fillCalls 1 32) := by
    unfold Few
    decide +kernel
  have huses : (fillCalls 1 32).foldl (uses fun _ => []) []
      = (List.range 31).map fun i => UInt32.ofNat (2 + i) := by decide +kernel
  obtain ⟨s, hrun, hqueue⟩ := run_recency (fun _ => []) 7 hfew
  exact ⟨s, hrun, huses ▸ hqueue⟩

/-- Calls that do not reset the cache use the list with the tags that they look up. -/
theorem foldl_uses {inputs : List Input} (hkeep : ∀ i ∈ inputs, i.clears text = false)
    (q : List UInt32) :
    inputs.foldl (uses text) q
      = (inputs.filterMap Input.tag).foldl (Recency.use tagCacheSize) q := by
  induction inputs generalizing q with
  | nil => rfl
  | cons i inputs ih =>
    obtain ⟨hi, hkeep⟩ := List.forall_mem_cons.mp hkeep
    rw [List.foldl_cons, ih hkeep]
    unfold uses
    rw [hi, if_neg Bool.false_ne_true]
    cases htag : i.tag with
    | none => rw [List.filterMap_cons_none htag]
    | some tag => rw [List.filterMap_cons_some htag, List.foldl_cons]

/-- **What stays cached.** A tag that is looked up in a full cache is found there again, whatever
is logged and set behind it, as long as that is no reset and fewer than 31 other tags. -/
theorem run_retained (text : UInt32 → List UInt8) (printFunc : UInt32) {before after : List Input}
    {level : EspLogLevel} {tag : UInt32} {s : EspLog}
    (hfew : Few text 0 (before ++ .writev level tag true :: after))
    (hs : (run (EspLog.step text) (some (.init printFunc)) before).1 = some s)
    (hfull : s.cache.entryCount = tagCacheSize) (hkeep : ∀ i ∈ after, i.clears text = false)
    (hothers : ((after.filterMap Input.tag).toFinset.erase tag).card < tagCacheSize) :
    ∃ s' c found,
      (run (EspLog.step text) (some (.init printFunc))
        (before ++ .writev level tag true :: after)).1 = some s'
        ∧ s'.cache.getCachedLogLevel tag = some (c, some found) := by
  obtain ⟨hbefore, hroom, hafter⟩ := (allSteps_append _ _ _).mp hfew
  obtain ⟨s₀, hrun, hqueue, hmax⟩ := queue_run (queue_init printFunc) (Nat.le_refl 0) hbefore
  obtain rfl := Option.some.inj (hs.symm.trans hrun)
  generalize hq : before.foldl (uses text) [] = q at hqueue
  have hlen : q.length = tagCacheSize := hqueue.length.trans hfull
  have hnodup : q.Nodup := hqueue.choose_spec.2.2
  obtain ⟨s₁, hstep, hqueue₁, hmax₁⟩ := queue_step hqueue hmax hroom (.writev level tag true)
  obtain ⟨s', hrun', hqueue', -⟩ := queue_run hqueue₁ hmax₁ hafter
  have hmem : tag ∈ after.foldl (uses text) (uses text q (.writev level tag true)) := by
    rw [foldl_uses hkeep]
    refine Recency.mem_uses (Recency.behind_use_self hlen _ tag)
      (Recency.nodup_use hnodup _ tag) (Nat.zero_lt_succ _)
      (Recency.length_use (Nat.zero_lt_succ _) hlen tag) hothers (Finset.notMem_erase _ _) ?_
    intro j hj
    by_cases heq : j = tag
    · exact Or.inl heq
    · exact Or.inr (Finset.mem_erase.mpr ⟨heq, List.mem_toFinset.mpr hj⟩)
  obtain ⟨⟨c, found⟩, hget⟩ := getCachedLogLevel_isSome hqueue' tag
  have hwhole : (run (EspLog.step text) (some (.init printFunc))
      (before ++ .writev level tag true :: after)).1 = some s' := by
    rw [run_append, hs, run_cons, hstep]
    exact hrun'
  cases found with
  | some found => exact ⟨s', c, found, hwhole, hget⟩
  | none =>
    rcases getCachedLogLevel_cases hget with ⟨-, -, hne⟩ | ⟨i, -, -, hsome, -⟩
    · obtain ⟨e, he, htag⟩ := hqueue'.mem_iff.mp hmem
      exact absurd htag (hne e he)
    · cases hsome

/-- The tag 1 among 30 others, in a cache that 31 have filled. -/
theorem run_retained_fillCalls :
    ∃ s' c found,
      (run (EspLog.step fun _ => []) (some (.init 7))
        (fillCalls 1 31 ++ .writev .info 1 true :: fillCalls 40 30)).1 = some s'
        ∧ s'.cache.getCachedLogLevel 1 = some (c, some found) := by
  have hfew : Few (fun _ => []) 0 (fillCalls 1 31 ++ .writev .info 1 true :: fillCalls 40 30) := by
    unfold Few
    decide +kernel
  have hcount : ((run (EspLog.step fun _ => []) (some (.init 7)) (fillCalls 1 31)).1.map
      fun s => s.cache.entryCount) = some tagCacheSize := by decide +kernel
  obtain ⟨s, hs, hfull⟩ := Option.map_eq_some_iff.mp hcount
  exact run_retained (fun _ => []) 7 hfew hs hfull (by decide +kernel) (by decide +kernel)

end ControlFan.Log
