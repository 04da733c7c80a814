import ControlFan.Lib.CString
import ControlFan.Lib.Heap
import ControlFan.Lib.Machine
import ControlFan.Lib.Slots

/-!
# Log — the levels of the tags and their cache (`log/log.c`)

The levels that `esp_log_level_set` has given stand in a list under the texts of their tags. So
that a message need not search it, the levels last used stand in a cache under the tags' pointers:
a binary min-heap by `generation`, in which an entry that is used moves behind all others once the
cache is full.

* **`LogCache`** — the cache, with `scan`, `getCachedLogLevel` and `addToCache`;
* **`EspLog`** — the component under its calls; a failed `assert` ends it;
* **`ordered_heapBubbleDown`**, **`perm_heapBubbleDown`** — a sinking entry restores the heap, and
  no entry is lost or doubled;
* **`scan_some`**, **`scan_none`**, **`scan_isSome`** — what the loops over the cache find, and
  that in an ordered heap none of them fails its `assert`.
-/

namespace ControlFan.Log

open CString

/-! ## The cache -/

/-- `esp_log_level_t`. -/
inductive EspLogLevel where
  | none
  | error
  | warn
  | info
  | debug
  | verbose
  deriving DecidableEq, Repr

def EspLogLevel.toNat : EspLogLevel → Nat
  | .none => 0
  | .error => 1
  | .warn => 2
  | .info => 3
  | .debug => 4
  | .verbose => 5

abbrev tagCacheSize : Nat := 31

/-- `cached_tag_entry_t`; the tag is the pointer. -/
structure CachedTagEntry where
  tag : UInt32 := 0
  level : EspLogLevel := .none
  generation : Nat := 0
  deriving DecidableEq, Repr

abbrev CachedTagEntry.pair (e : CachedTagEntry) : UInt32 × EspLogLevel := (e.tag, e.level)

/-- The values of the 29 bits of `generation`. -/
def generationBits : Nat := 2 ^ 29

/-- `heap_bubble_down`, with `heap_swap`. -/
def heapBubbleDown (entries : Vector CachedTagEntry tagCacheSize) (index : Nat) :
    Vector CachedTagEntry tagCacheSize :=
  if h : index < tagCacheSize / 2 then
    have hright : index * 2 + 1 + 1 < tagCacheSize := by grind
    let left := index * 2 + 1
    let next := if entries[left].generation < entries[left + 1].generation then left else left + 1
    heapBubbleDown (entries.swap index next (by omega) (by grind)) next
  else entries
termination_by tagCacheSize - index
decreasing_by all_goals grind

/-- `s_log_cache` and its two counters. -/
structure LogCache where
  entries : Vector CachedTagEntry tagCacheSize := Vector.replicate tagCacheSize {}
  entryCount : Nat := 0
  entryCount_le : entryCount ≤ tagCacheSize := by decide
  maxGeneration : Nat := 0

/-- The entries in use. -/
def LogCache.cached (c : LogCache) : List CachedTagEntry := c.entries.toList.take c.entryCount

/-- The loops over the cache, from index `i` on: the index at which `found` leaves the loop, or
none at its end. The `assert` in front of the comparison fails with `none`. -/
def LogCache.scan (c : LogCache) (found : CachedTagEntry → Bool) (i : Nat) :
    Option (Option (Fin tagCacheSize)) :=
  if h : i < c.entryCount then
    have hi : i < tagCacheSize := h.trans_le c.entryCount_le
    if i = 0 ∨ c.entries[(i - 1) / 2].generation < c.entries[i].generation then
      if found c.entries[i] then some (some ⟨i, hi⟩) else c.scan found (i + 1)
    else none
  else some none
termination_by c.entryCount - i

/-- `get_cached_log_level`. -/
def LogCache.getCachedLogLevel (c : LogCache) (tag : UInt32) :
    Option (LogCache × Option EspLogLevel) :=
  match c.scan (fun e => e.tag == tag) 0 with
  | none => none
  | some none => some (c, none)
  | some (some i) =>
    let level := c.entries[i].level
    -- the order counts only once the cache has been filled
    if c.entryCount = tagCacheSize then
      let e := { c.entries[i] with generation := c.maxGeneration % generationBits }
      some ({ c with
        entries := heapBubbleDown (c.entries.set i e) i
        maxGeneration := (c.maxGeneration + 1) % 2 ^ 32 }, some level)
    else some (c, some level)

/-- `add_to_cache`. -/
def LogCache.addToCache (c : LogCache) (tag : UInt32) (level : EspLogLevel) : LogCache :=
  let e : CachedTagEntry := ⟨tag, level, c.maxGeneration % generationBits⟩
  let c := { c with maxGeneration := (c.maxGeneration + 1) % 2 ^ 32 }
  if h : c.entryCount < tagCacheSize then
    { c with
      entries := c.entries.set c.entryCount e
      entryCount := c.entryCount + 1
      entryCount_le := h }
  else
    -- the oldest entry is at index 0
    { c with entries := heapBubbleDown (c.entries.set 0 e) 0 }

/-! ## The component -/

/-- The statics of `log.c`: the default level, the list `s_log_tags` with the texts and levels
that were set, the cache and the function that prints. -/
structure EspLog where
  defaultLevel : EspLogLevel := .verbose
  tags : List (List UInt8 × EspLogLevel) := []
  cache : LogCache := {}
  printFunc : UInt32

/-- `clear_log_level_list`. -/
def EspLog.clearLogLevelList (s : EspLog) : EspLog :=
  { s with
    tags := []
    cache := { s.cache with entryCount := 0, entryCount_le := Nat.zero_le _, maxGeneration := 0 } }

/-- `get_uncached_log_level`; `tag` is the memory at the pointer. -/
def EspLog.getUncachedLogLevel (s : EspLog) (tag : List UInt8) : Option EspLogLevel :=
  (s.tags.find? fun it => strcmp tag it.1 == 0).map (·.2)

/-- The first part of `esp_log_level_set`, the list: `none` without the memory for an entry. -/
def setTags (tags : List (List UInt8 × EspLogLevel)) (tag : List UInt8) (level : EspLogLevel)
    (alloc : Bool) : Option (List (List UInt8 × EspLogLevel)) :=
  match Slots.modifyFirst (fun it => strcmp it.1 tag == 0) (fun it => (it.1, level)) tags with
  | some tags => some tags
  | none => if alloc then some ((cstr tag, level) :: tags) else none

/-- Its second part, the cache. -/
def LogCache.setLevel (text : UInt32 → List UInt8) (c : LogCache) (tag : List UInt8)
    (level : EspLogLevel) : Option LogCache :=
  match c.scan (fun e => strcmp (text e.tag) tag == 0) 0 with
  | none => none
  | some none => some c
  | some (some i) =>
    some { c with entries := c.entries.set i { c.entries[i] with level := level } }

/-- `esp_log_level_set`; `text` is the memory at a pointer. -/
def EspLog.levelSet (text : UInt32 → List UInt8) (s : EspLog) (tag : UInt32) (level : EspLogLevel)
    (alloc : Bool) : Option EspLog :=
  if strcmp (text tag) (ascii ['*']) = 0 then
    some { s with defaultLevel := level }.clearLogLevelList
  else
    match setTags s.tags (text tag) level alloc with
    | none => some s
    | some tags =>
      (s.cache.setLevel text (text tag) level).map fun cache => { s with tags, cache }

def shouldOutput (levelForMessage levelForTag : EspLogLevel) : Bool :=
  levelForMessage.toNat ≤ levelForTag.toNat

/-- The lookup of `esp_log_writev`. -/
def EspLog.levelFor (text : UInt32 → List UInt8) (s : EspLog) (tag : UInt32) :
    Option (EspLog × EspLogLevel) :=
  match s.cache.getCachedLogLevel tag with
  | none => none
  | some (cache, some level) => some ({ s with cache }, level)
  | some (cache, none) =>
    let level := (s.getUncachedLogLevel (text tag)).getD s.defaultLevel
    some ({ s with cache := cache.addToCache tag level }, level)

/-- What a call shows: a message goes to the function that prints or is dropped, and
`esp_log_set_vprintf` returns the function that printed before. -/
inductive Output where
  | printed (func : UInt32)
  | dropped
  | origFunc (func : UInt32)
  deriving DecidableEq, Repr

/-- `esp_log_writev`; `locked` says whether the mutex came in time. -/
def EspLog.writev (text : UInt32 → List UInt8) (s : EspLog) (level : EspLogLevel) (tag : UInt32)
    (locked : Bool) : Option (EspLog × Output) :=
  if locked then
    (s.levelFor text tag).map fun (s, levelForTag) =>
      (s, if shouldOutput level levelForTag then .printed s.printFunc else .dropped)
  else some (s, .dropped)

inductive Input where
  | levelSet (tag : UInt32) (level : EspLogLevel) (alloc : Bool)
  | writev (level : EspLogLevel) (tag : UInt32) (locked : Bool)
  | setVprintf (func : UInt32)
  deriving DecidableEq, Repr

/-- The tag that a call looks up. -/
def Input.tag : Input → Option UInt32
  | .writev _ tag true => some tag
  | _ => none

/-- The component as it starts. -/
def EspLog.init (printFunc : UInt32) : EspLog := { printFunc }

/-- One call; without a state the device has gone down at a failed `assert`. -/
def EspLog.step (text : UInt32 → List UInt8) : Option EspLog → Input → Option EspLog × List Output
  | none, _ => (none, [])
  | some s, .levelSet tag level alloc => (s.levelSet text tag level alloc, [])
  | some s, .writev level tag locked =>
    match s.writev text level tag locked with
    | none => (none, [])
    | some (s, o) => (some s, [o])
  | some s, .setVprintf func => (some { s with printFunc := func }, [.origFunc s.printFunc])

/-! ## The sinking of an entry -/

/-- The entries stay the same ones. -/
theorem perm_heapBubbleDown (entries : Vector CachedTagEntry tagCacheSize) (index : Nat) :
    (heapBubbleDown entries index).toList.Perm entries.toList := by
  fun_induction heapBubbleDown with
  | case1 entries index h hright left next ih =>
    exact ih.trans (Vector.swap_perm _ _).toList
  | case2 => exact List.Perm.refl _

/-- The entry that sinks goes down to a leaf. -/
theorem ordered_heapBubbleDown (entries : Vector CachedTagEntry tagCacheSize) (index : Nat)
    (hi : index < tagCacheSize) : Heap.Sinking (·.generation) entries index hi →
      Heap.Ordered (·.generation) (heapBubbleDown entries index) tagCacheSize := by
  fun_induction heapBubbleDown with
  | case1 entries index hlt hright left next ih =>
    intro h
    have hnext : entries[left].generation < entries[left + 1].generation ∧ next = left
        ∨ entries[left + 1].generation ≤ entries[left].generation ∧ next = left + 1 := by
      by_cases hlower : entries[left].generation < entries[left + 1].generation
      · exact Or.inl ⟨hlower, if_pos hlower⟩
      · exact Or.inr ⟨not_lt.mp hlower, if_neg hlower⟩
    have hleast {x : Nat} (hx : x < tagCacheSize)
        (hlower : entries[left].generation < entries[left + 1].generation ∧ x = left
          ∨ entries[left + 1].generation ≤ entries[left].generation ∧ x = left + 1)
        {j : Nat} (hj : j < tagCacheSize) (hchild : j = left ∨ j = left + 1) :
        entries[x].generation ≤ entries[j].generation := by
      rcases hlower with ⟨hlower, rfl⟩ | ⟨hlower, rfl⟩
      · rcases hchild with rfl | rfl
        · exact le_rfl
        · exact hlower.le
      · rcases hchild with rfl | rfl
        · exact hlower
        · exact le_rfl
    exact ih (by omega) (h.swap (by omega) (by omega) (by omega) fun j hj hpos hparent =>
      hleast (by omega) hnext hj (by omega))
  | case2 entries index hlt => exact fun h => h.ordered (by omega)

/-! ## The loops over the cache -/

variable {c : LogCache} {found : CachedTagEntry → Bool}

theorem length_cached (c : LogCache) : c.cached.length = c.entryCount := by
  unfold LogCache.cached
  rw [List.length_take, Vector.length_toList, Nat.min_eq_left c.entryCount_le]

theorem getElem_cached {i : Fin tagCacheSize} (hi : i < c.cached.length) :
    c.cached[i] = c.entries[i] := by
  simp only [LogCache.cached, Fin.getElem_fin, List.getElem_take, Vector.getElem_toList]

theorem getElem_mem_cached {i : Fin tagCacheSize} (hi : i < c.entryCount) :
    c.entries[i] ∈ c.cached := by
  have hlt : i < c.cached.length := hi.trans_eq (length_cached c).symm
  exact getElem_cached hlt ▸ List.getElem_mem hlt

theorem scan_some {i : Nat} {j : Fin tagCacheSize} (h : c.scan found i = some (some j)) :
    j < c.entryCount ∧ found c.entries[j] = true := by
  fun_induction LogCache.scan with
  | case1 i hlt hi hassert hfound =>
    cases h
    exact ⟨hlt, hfound⟩
  | case2 i hlt hi hassert hfound ih => exact ih h
  | case3 => cases h
  | case4 => cases h

theorem scan_none_from {i : Nat} (h : c.scan found i = some none) {k : Fin tagCacheSize}
    (hk : k < c.entryCount) (hik : i ≤ k) : found c.entries[k] = false := by
  fun_induction LogCache.scan with
  | case1 => cases h
  | case2 i hlt hi hassert hfound ih =>
    rcases hik.eq_or_lt with rfl | hbehind
    · exact Bool.eq_false_of_not_eq_true hfound
    · exact ih h hbehind
  | case3 => cases h
  | case4 i hend => exact absurd (hik.trans_lt hk) hend

theorem scan_none (h : c.scan found 0 = some none) : ∀ e ∈ c.cached, found e = false := by
  intro e he
  obtain ⟨k, hk, rfl⟩ := List.getElem_of_mem he
  have hlt : k < c.entryCount := hk.trans_eq (length_cached c)
  have hget := getElem_cached (c := c) (i := ⟨k, hlt.trans_le c.entryCount_le⟩) hk
  exact (congrArg found hget).trans (scan_none_from h hlt (Nat.zero_le k))

/-- No `assert` fails on keys in strict order. -/
theorem scan_isSome (h : Heap.Ordered (·.generation) c.entries c.entryCount)
    (hdistinct : (c.cached.map (·.generation)).Nodup) (found : CachedTagEntry → Bool) (i : Nat) :
    (c.scan found i).isSome = true := by
  fun_induction LogCache.scan with
  | case1 => rfl
  | case2 i hlt hi hassert hfound ih => exact ih
  | case3 i hlt hi hassert =>
    have hpos := Nat.pos_of_ne_zero fun hzero => hassert (Or.inl hzero)
    exact absurd (Or.inr (h.lt c.entryCount_le hdistinct hpos hlt)) hassert
  | case4 => rfl

/-! ## What the calls do to the cache -/

abbrev LogCache.entry (c : LogCache) (i : Fin tagCacheSize) : CachedTagEntry := c.entries[i]

/-- The cache with `e` at `i`. -/
abbrev LogCache.put (c : LogCache) (i : Fin tagCacheSize) (e : CachedTagEntry) : LogCache :=
  { c with entries := c.entries.set i e }

/-- A full cache in which `e` has taken the place of the entry at `i`, and has sunk from there. -/
def LogCache.moved (c : LogCache) (i : Fin tagCacheSize) (e : CachedTagEntry) : LogCache :=
  { c with
    entries := heapBubbleDown (c.entries.set i e) i
    maxGeneration := (c.maxGeneration + 1) % 2 ^ 32 }

theorem getCachedLogLevel_cases {tag : UInt32} {c' : LogCache} {level : Option EspLogLevel}
    (h : c.getCachedLogLevel tag = some (c', level)) :
    (level = none ∧ c' = c ∧ ∀ e ∈ c.cached, e.tag ≠ tag)
      ∨ ∃ i : Fin tagCacheSize, i < c.entryCount ∧ c.entries[i].tag = tag
        ∧ level = some c.entries[i].level
        ∧ c' = if c.entryCount = tagCacheSize then
            c.moved i ⟨tag, c.entries[i].level, c.maxGeneration % generationBits⟩
          else c := by
  unfold LogCache.getCachedLogLevel at h
  cases hscan : c.scan (fun e => e.tag == tag) 0 with
  | none =>
    rw [hscan] at h
    cases h
  | some r =>
    rw [hscan] at h
    cases r with
    | none =>
      cases h
      exact Or.inl ⟨rfl, rfl, fun e he => ne_of_beq_false (scan_none hscan e he)⟩
    | some i =>
      obtain ⟨hi, htag⟩ := scan_some hscan
      have htag := eq_of_beq htag
      refine Or.inr ⟨i, hi, htag, ?_⟩
      dsimp only at h
      rw [← htag]
      split_ifs at h ⊢
      · cases h
        exact ⟨rfl, rfl⟩
      · cases h
        exact ⟨rfl, rfl⟩

theorem addToCache_full (hfull : c.entryCount = tagCacheSize) (tag : UInt32)
    (level : EspLogLevel) :
    c.addToCache tag level
      = c.moved ⟨0, by decide⟩ ⟨tag, level, c.maxGeneration % generationBits⟩ :=
  dif_neg (Nat.not_lt.mpr hfull.ge)

theorem cached_addToCache (hlt : c.entryCount < tagCacheSize) (tag : UInt32)
    (level : EspLogLevel) :
    (c.addToCache tag level).cached
      = c.cached ++ [⟨tag, level, c.maxGeneration % generationBits⟩] := by
  unfold LogCache.addToCache LogCache.cached
  dsimp only
  rw [dif_pos hlt, Vector.toList_set, List.take_set,
    List.take_succ_eq_append_getElem (by rwa [Vector.length_toList])]
  have hlen : (c.entries.toList.take c.entryCount).length = c.entryCount := length_cached c
  rw [List.set_append_right _ _ hlen.le, hlen, Nat.sub_self]
  rfl

/-- One entry in use is overwritten. -/
theorem cached_set {i : Fin tagCacheSize} (hi : i < c.entryCount) (e : CachedTagEntry) :
    ∃ pre post, c.cached = pre ++ c.entries[i] :: post
      ∧ { c with entries := c.entries.set i e }.cached = pre ++ e :: post := by
  have hlt : i < c.cached.length := hi.trans_eq (length_cached c).symm
  refine ⟨c.cached.take i, c.cached.drop (i + 1), ?_, ?_⟩
  · have hdrop := List.getElem_cons_drop hlt
    rw [← getElem_cached hlt]
    exact ((congrArg _ hdrop).trans (List.take_append_drop _ _)).symm
  · have hset : { c with entries := c.entries.set i e }.cached = c.cached.set i e := by
      unfold LogCache.cached
      rw [Vector.toList_set, List.take_set]
    rw [hset, List.set_eq_take_append_cons_drop, if_pos hlt]

/-- The other entries of a full cache stay. -/
theorem cached_moved (hfull : c.entryCount = tagCacheSize) (i : Fin tagCacheSize)
    (e : CachedTagEntry) :
    ∃ pre post, c.cached = pre ++ c.entries[i] :: post
      ∧ (c.moved i e).cached.Perm (pre ++ e :: post) := by
  obtain ⟨pre, post, hcached, hset⟩ := cached_set (i.isLt.trans_eq hfull.symm) e
  refine ⟨pre, post, hcached, hset ▸ ?_⟩
  have hall (entries : Vector CachedTagEntry tagCacheSize) :
      entries.toList.take c.entryCount = entries.toList :=
    List.take_of_length_le (by rw [Vector.length_toList, hfull])
  show (List.take c.entryCount _).Perm (List.take c.entryCount _)
  rw [hall, hall]
  exact perm_heapBubbleDown _ _

end ControlFan.Log
