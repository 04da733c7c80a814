import Mathlib.Data.Set.Function
import ControlFan.Log.Cache

/-!
# Log — every message is judged by the level that was set for it

* **`Levels`** — the levels as a table under the tags' texts, without a list or a cache;
* **`Fresh`** — what the cache holds is what the table says;
* **`Shows`** — the invariant of the component beside such a table;
* **`shows_step`** — every call keeps it, and shows what the table says;
* **`run_levels`** — over any run the messages printed are those that the table lets through.

The cache goes by pointers and the list by texts. `esp_log_level_set` looks for one entry of the
cache with the text, so all of this is for tags of which no two that are used have one text.
-/

namespace ControlFan.Log

open CString Machine

/-! ## The table -/

/-- The levels that were set, by text, and the level of all other tags. -/
structure Levels where
  defaultLevel : EspLogLevel := .verbose
  given : List UInt8 → Option EspLogLevel := fun _ => none
  printFunc : UInt32

def Levels.level (t : Levels) (name : List UInt8) : EspLogLevel :=
  (t.given name).getD t.defaultLevel

def Levels.step (text : UInt32 → List UInt8) (t : Levels) : Input → Levels × List Output
  | .levelSet tag level alloc =>
    let name := cstr (text tag)
    if name = ascii ['*'] then ({ t with defaultLevel := level, given := fun _ => none }, [])
    -- without memory for a new entry nothing changes
    else if (t.given name).isSome ∨ alloc then
      ({ t with given := Function.update t.given name (some level) }, [])
    else (t, [])
  | .writev level tag locked =>
    (t, [if locked ∧ level.toNat ≤ (t.level (cstr (text tag))).toNat then .printed t.printFunc
      else .dropped])
  | .setVprintf func => ({ t with printFunc := func }, [.origFunc t.printFunc])

/-! ## The list -/

theorem strcmp_beq_zero (a b : List UInt8) : (strcmp a b == 0) = (cstr a == cstr b) := by
  rw [Bool.eq_iff_iff, beq_iff_eq, beq_iff_eq, strcmp_eq_zero_iff]

/-- The level that the list has for a text. -/
def lookup (tags : List (List UInt8 × EspLogLevel)) (tag : List UInt8) : Option EspLogLevel :=
  (tags.find? fun it => strcmp tag it.1 == 0).map (·.2)

theorem lookup_cons (it : List UInt8 × EspLogLevel) (tags : List (List UInt8 × EspLogLevel))
    (x : List UInt8) :
    lookup (it :: tags) x = if cstr x = cstr it.1 then some it.2 else lookup tags x := by
  unfold lookup
  rw [List.find?_cons, strcmp_beq_zero]
  by_cases h : cstr x = cstr it.1
  · rw [if_pos h, h, beq_self_eq_true]
    rfl
  · rw [if_neg h, beq_false_of_ne h]

theorem lookup_append {pre : List (List UInt8 × EspLogLevel)} {x : List UInt8}
    (h : ∀ it ∈ pre, cstr it.1 ≠ cstr x) (tags : List (List UInt8 × EspLogLevel)) :
    lookup (pre ++ tags) x = lookup tags x := by
  induction pre with
  | nil => rfl
  | cons it pre ih =>
    obtain ⟨hit, hpre⟩ := List.forall_mem_cons.mp h
    rw [List.cons_append, lookup_cons, if_neg hit.symm, ih hpre]

theorem lookup_append_cons {it : List UInt8 × EspLogLevel} {x : List UInt8}
    (h : cstr x ≠ cstr it.1) (pre post : List (List UInt8 × EspLogLevel)) :
    lookup (pre ++ it :: post) x = lookup (pre ++ post) x := by
  induction pre with
  | nil => exact (lookup_cons it post x).trans (if_neg h)
  | cons first pre ih => rw [List.cons_append, List.cons_append, lookup_cons, lookup_cons, ih]

/-- The list either has the text, and where it does it comes apart, or does not. -/
theorem setTags_cases (tags : List (List UInt8 × EspLogLevel)) (tag : List UInt8)
    (level : EspLogLevel) (alloc : Bool) :
    (∃ pre it post, tags = pre ++ it :: post ∧ (∀ it ∈ pre, cstr it.1 ≠ cstr tag)
        ∧ cstr it.1 = cstr tag
        ∧ setTags tags tag level alloc = some (pre ++ (it.1, level) :: post))
      ∨ (∀ it ∈ tags, cstr it.1 ≠ cstr tag)
        ∧ setTags tags tag level alloc
          = if alloc then some ((cstr tag, level) :: tags) else none := by
  have hne {it : List UInt8 × EspLogLevel} (h : (strcmp it.1 tag == 0) = false) :
      cstr it.1 ≠ cstr tag := ne_of_beq_false ((strcmp_beq_zero _ _).symm.trans h)
  unfold setTags
  cases hmod : Slots.modifyFirst (fun it => strcmp it.1 tag == 0) (fun it => (it.1, level)) tags with
  | none => exact Or.inr ⟨fun it hit => hne (Slots.modifyFirst_eq_none hmod it hit), rfl⟩
  | some ys =>
    obtain ⟨pre, it, post, htags, hpre, hit, hys⟩ := Slots.modifyFirst_eq_some hmod
    refine Or.inl ⟨pre, it, post, htags, fun it hit => hne (hpre it hit), ?_, congrArg some hys⟩
    exact eq_of_beq ((strcmp_beq_zero _ _).symm.trans hit)

theorem lookup_setTags {tags tags' : List (List UInt8 × EspLogLevel)} {tag : List UInt8}
    {level : EspLogLevel} {alloc : Bool} (h : setTags tags tag level alloc = some tags')
    (x : List UInt8) :
    lookup tags' x = if cstr x = cstr tag then some level else lookup tags x := by
  rcases setTags_cases tags tag level alloc with ⟨pre, it, post, rfl, hpre, hit, heq⟩ | ⟨hne, heq⟩
  · obtain rfl := Option.some.inj (heq.symm.trans h)
    split_ifs with hx
    · rw [lookup_append (hx ▸ hpre), lookup_cons, if_pos (hx.trans hit.symm)]
    · rw [lookup_append_cons (hit.symm ▸ hx), lookup_append_cons (hit.symm ▸ hx)]
  · rw [heq] at h
    split_ifs at h
    obtain rfl := Option.some.inj h
    rw [lookup_cons, cstr_eq_self (zero_notMem_cstr tag)]

theorem isSome_setTags (tags : List (List UInt8 × EspLogLevel)) (tag : List UInt8)
    (level : EspLogLevel) (alloc : Bool) :
    (setTags tags tag level alloc).isSome = true
      ↔ (lookup tags tag).isSome = true ∨ alloc = true := by
  rcases setTags_cases tags tag level alloc with ⟨pre, it, post, rfl, hpre, hit, heq⟩ | ⟨hne, heq⟩
  · rw [heq, lookup_append hpre, lookup_cons, if_pos hit.symm]
    exact iff_of_true rfl (Or.inl rfl)
  · have hlookup : lookup tags tag = none := by
      rw [← List.append_nil tags, lookup_append hne]
      rfl
    rw [heq, hlookup]
    cases alloc with
    | true => exact iff_of_true rfl (Or.inr rfl)
    | false => exact iff_of_false Bool.false_ne_true (by decide)

/-! ## The cache -/

section

variable (text : UInt32 → List UInt8) (used : Set UInt32)

/-- Entries that say what the table does, for tags in `used`, one for a tag. -/
structure Fresh (t : Levels) (es : List CachedTagEntry) : Prop where
  mem : ∀ e ∈ es, e.tag ∈ used
  level : ∀ e ∈ es, e.level = t.level (cstr (text e.tag))
  nodup : (es.map (·.tag)).Nodup

end

variable {text : UInt32 → List UInt8} {used : Set UInt32} {t : Levels}
  {es pre post : List CachedTagEntry} {e x : CachedTagEntry}

theorem Fresh.perm {es' : List CachedTagEntry} (h : Fresh text used t es) (hperm : es'.Perm es) :
    Fresh text used t es' where
  mem e he := h.mem e (hperm.mem_iff.mp he)
  level e he := h.level e (hperm.mem_iff.mp he)
  nodup := (hperm.map _).nodup_iff.mpr h.nodup

theorem fresh_cons : Fresh text used t (e :: es)
    ↔ (e.tag ∈ used ∧ e.level = t.level (cstr (text e.tag)) ∧ e.tag ∉ es.map (·.tag))
      ∧ Fresh text used t es := by
  constructor
  · intro h
    obtain ⟨hmem, hmems⟩ := List.forall_mem_cons.mp h.mem
    obtain ⟨hlevel, hlevels⟩ := List.forall_mem_cons.mp h.level
    obtain ⟨htag, hnodup⟩ := List.nodup_cons.mp h.nodup
    exact ⟨⟨hmem, hlevel, htag⟩, hmems, hlevels, hnodup⟩
  · rintro ⟨⟨hmem, hlevel, htag⟩, h⟩
    exact ⟨List.forall_mem_cons.mpr ⟨hmem, h.mem⟩, List.forall_mem_cons.mpr ⟨hlevel, h.level⟩,
      List.nodup_cons.mpr ⟨htag, h.nodup⟩⟩

/-- An entry that is put in the place of another one. -/
theorem Fresh.replace (h : Fresh text used t (pre ++ x :: post)) (hmem : e.tag ∈ used)
    (hlevel : e.level = t.level (cstr (text e.tag)))
    (htag : e.tag = x.tag ∨ e.tag ∉ (pre ++ x :: post).map (·.tag)) :
    Fresh text used t (pre ++ e :: post) := by
  obtain ⟨⟨-, -, hx⟩, hrest⟩ := fresh_cons.mp (h.perm List.perm_middle.symm)
  refine (fresh_cons.mpr ⟨⟨hmem, hlevel, ?_⟩, hrest⟩).perm List.perm_middle
  rcases htag with htag | htag
  · rwa [htag]
  · intro hmem
    refine htag ?_
    rw [List.map_append, List.map_cons]
    rw [List.map_append] at hmem
    exact (List.mem_append.mp hmem).elim (List.mem_append_left _)
      fun h => List.mem_append_right _ (List.mem_cons_of_mem _ h)

variable {c c' : LogCache} {tag : UInt32} {level : EspLogLevel}

theorem fresh_getCachedLogLevel (h : Fresh text used t c.cached)
    (hok : c.getCachedLogLevel tag = some (c', some level)) :
    Fresh text used t c'.cached ∧ level = t.level (cstr (text tag)) := by
  rcases getCachedLogLevel_cases hok with ⟨hnone, -⟩ | ⟨i, hi, rfl, hlevel, rfl⟩
  · cases hnone
  · obtain rfl := Option.some.inj hlevel
    have hmem := h.mem _ (getElem_mem_cached hi)
    have hfresh := h.level _ (getElem_mem_cached hi)
    refine ⟨?_, hfresh⟩
    split_ifs with hfull
    · obtain ⟨pre, post, hcached, hmoved⟩ := cached_moved hfull i
        ⟨c.entries[i].tag, c.entries[i].level, c.maxGeneration % generationBits⟩
      refine Fresh.perm ?_ hmoved
      exact (hcached ▸ h).replace hmem hfresh (Or.inl rfl)
    · exact h

theorem fresh_addToCache (h : Fresh text used t c.cached) (hmem : tag ∈ used)
    (hlevel : level = t.level (cstr (text tag))) (htag : ∀ e ∈ c.cached, e.tag ≠ tag) :
    Fresh text used t (c.addToCache tag level).cached := by
  have hnew : tag ∉ c.cached.map (·.tag) := fun hmem =>
    let ⟨e, he, heq⟩ := List.mem_map.mp hmem
    htag e he heq
  rcases c.entryCount_le.lt_or_eq with hlt | hfull
  · rw [cached_addToCache hlt]
    refine Fresh.perm ?_ (List.perm_append_singleton _ _)
    exact fresh_cons.mpr ⟨⟨hmem, hlevel, hnew⟩, h⟩
  · rw [addToCache_full hfull]
    obtain ⟨pre, post, hcached, hmoved⟩ := cached_moved hfull ⟨0, by decide⟩
      ⟨tag, level, c.maxGeneration % generationBits⟩
    exact ((hcached ▸ h).replace hmem hlevel (Or.inr (hcached ▸ hnew))).perm hmoved

/-- The one entry with the text takes the new level. -/
theorem fresh_setLevel (hinj : used.InjOn fun tag => cstr (text tag))
    (h : Fresh text used t c.cached) {name : List UInt8} {t' : Levels}
    (ht : ∀ x, t'.level x = if x = cstr name then level else t.level x)
    (hok : c.setLevel text name level = some c') : Fresh text used t' c'.cached := by
  have hother {e : CachedTagEntry} (hne : cstr (text e.tag) ≠ cstr name)
      (hlevel : e.level = t.level (cstr (text e.tag))) :
      e.level = t'.level (cstr (text e.tag)) := by
    rw [ht, if_neg hne]
    exact hlevel
  unfold LogCache.setLevel at hok
  cases hscan : c.scan (fun e => strcmp (text e.tag) name == 0) 0 with
  | none =>
    rw [hscan] at hok
    cases hok
  | some r =>
    rw [hscan] at hok
    cases r with
    | none =>
      cases hok
      refine ⟨h.mem, fun e he => hother ?_ (h.level e he), h.nodup⟩
      exact ne_of_beq_false ((strcmp_beq_zero _ _).symm.trans (scan_none hscan e he))
    | some i =>
      obtain rfl := Option.some.inj hok
      obtain ⟨hi, hfound⟩ := scan_some hscan
      have htext := eq_of_beq ((strcmp_beq_zero _ _).symm.trans hfound)
      obtain ⟨pre, post, hcached, hset⟩ := cached_set hi { c.entries[i] with level := level }
      rw [hset]
      rw [hcached] at h
      obtain ⟨⟨hmem, -, htag⟩, hrest⟩ := fresh_cons.mp (h.perm List.perm_middle.symm)
      refine Fresh.perm ?_ List.perm_middle
      refine fresh_cons.mpr ⟨⟨hmem, ?_, htag⟩, hrest.mem, fun e he => ?_, hrest.nodup⟩
      · rw [ht, if_pos htext]
      · refine hother (fun heq => htag ?_) (hrest.level e he)
        rw [← hinj (hrest.mem e he) hmem (heq.trans htext.symm)]
        exact List.mem_map_of_mem he

/-! ## The component -/

/-- The component beside the table. -/
structure Shows (text : UInt32 → List UInt8) (used : Set UInt32) (s : EspLog) (t : Levels) :
    Prop where
  default : s.defaultLevel = t.defaultLevel
  given : ∀ tag, lookup s.tags tag = t.given (cstr tag)
  printFunc : s.printFunc = t.printFunc
  cached : Fresh text used t s.cache.cached

variable {s s' : EspLog}

theorem shows_levelFor (h : Shows text used s t) (hmem : tag ∈ used)
    (hok : s.levelFor text tag = some (s', level)) :
    Shows text used s' t ∧ level = t.level (cstr (text tag)) := by
  unfold EspLog.levelFor at hok
  cases hget : s.cache.getCachedLogLevel tag with
  | none =>
    rw [hget] at hok
    cases hok
  | some r =>
    obtain ⟨c, found⟩ := r
    rw [hget] at hok
    cases found with
    | some found =>
      cases hok
      obtain ⟨hfresh, hlevel⟩ := fresh_getCachedLogLevel h.cached hget
      exact ⟨⟨h.default, h.given, h.printFunc, hfresh⟩, hlevel⟩
    | none =>
      cases hok
      rcases getCachedLogLevel_cases hget with ⟨-, rfl, htag⟩ | ⟨i, -, -, hsome, -⟩
      · have hlevel : (s.getUncachedLogLevel (text tag)).getD s.defaultLevel
            = t.level (cstr (text tag)) := by
          show (lookup s.tags (text tag)).getD _ = _
          rw [h.given, h.default]
          rfl
        exact ⟨⟨h.default, h.given, h.printFunc,
          fresh_addToCache h.cached hmem hlevel htag⟩, hlevel⟩
      · cases hsome

theorem shows_levelSet (hinj : used.InjOn fun tag => cstr (text tag))
    (h : Shows text used s t) {alloc : Bool}
    (hok : s.levelSet text tag level alloc = some s') :
    Shows text used s' (t.step text (.levelSet tag level alloc)).1 := by
  unfold EspLog.levelSet at hok
  unfold Levels.step
  dsimp only
  by_cases hstar : cstr (text tag) = ascii ['*']
  · rw [if_pos ((strcmp_eq_zero_iff _ _).mpr (hstar.trans (by decide)))] at hok
    cases hok
    rw [if_pos hstar]
    exact ⟨rfl, fun _ => rfl, h.printFunc, fun _ he => absurd he List.not_mem_nil,
      fun _ he => absurd he List.not_mem_nil, List.nodup_nil⟩
  · rw [if_neg (fun hzero => hstar (((strcmp_eq_zero_iff _ _).mp hzero).trans (by decide)))] at hok
    rw [if_neg hstar]
    have hsome := isSome_setTags s.tags (text tag) level alloc
    rw [h.given] at hsome
    cases htags : setTags s.tags (text tag) level alloc with
    | none =>
      rw [htags] at hok hsome
      cases hok
      rw [if_neg (hsome.not.mp Bool.false_ne_true)]
      exact h
    | some tags =>
      rw [htags] at hok hsome
      rw [if_pos (hsome.mp rfl)]
      obtain ⟨c, hset, rfl⟩ := Option.map_eq_some_iff.mp hok
      refine ⟨h.default, fun x => ?_, h.printFunc, fresh_setLevel hinj h.cached (fun x => ?_) hset⟩
      · rw [lookup_setTags htags, h.given]
        exact (Function.update_apply _ _ _ _).symm
      · unfold Levels.level
        dsimp only
        rw [Function.update_apply]
        split_ifs
        · rfl
        · rfl

theorem shouldOutput_iff (level levelForTag : EspLogLevel) :
    shouldOutput level levelForTag = true ↔ level.toNat ≤ levelForTag.toNat := decide_eq_true_iff

/-- **One call.** Either an `assert` fails in it, or it shows what the table says. -/
theorem shows_step (hinj : used.InjOn fun tag => cstr (text tag)) (h : Shows text used s t)
    (i : Input) (hused : ∀ tag, i.tag = some tag → tag ∈ used) :
    EspLog.step text (some s) i = (none, [])
      ∨ ∃ s', EspLog.step text (some s) i = (some s', (t.step text i).2)
        ∧ Shows text used s' (t.step text i).1 := by
  cases i with
  | levelSet tag level alloc =>
    have houts : (t.step text (.levelSet tag level alloc)).2 = [] := by
      unfold Levels.step
      dsimp only
      split_ifs
      · rfl
      · rfl
      · rfl
    rw [houts]
    show (s.levelSet text tag level alloc, []) = _
      ∨ ∃ s', (s.levelSet text tag level alloc, []) = _ ∧ _
    cases hset : s.levelSet text tag level alloc with
    | none => exact Or.inl rfl
    | some s' => exact Or.inr ⟨s', rfl, shows_levelSet hinj h hset⟩
  | setVprintf func =>
    refine Or.inr ⟨{ s with printFunc := func }, ?_, ⟨h.default, h.given, rfl,
      h.cached.mem, h.cached.level, h.cached.nodup⟩⟩
    show (some _, [Output.origFunc s.printFunc]) = (some _, [Output.origFunc t.printFunc])
    rw [h.printFunc]
  | writev level tag locked =>
    unfold EspLog.step EspLog.writev Levels.step
    dsimp only
    cases locked with
    | false => exact Or.inr ⟨s, rfl, h⟩
    | true =>
      rw [if_pos rfl]
      cases hfor : s.levelFor text tag with
      | none => exact Or.inl rfl
      | some r =>
        obtain ⟨s', levelForTag⟩ := r
        obtain ⟨hshows, hlevel⟩ := shows_levelFor h (hused tag rfl) hfor
        refine Or.inr ⟨s', ?_, hshows⟩
        show (some s', [if shouldOutput level levelForTag = true then Output.printed s'.printFunc
          else .dropped]) = _
        rw [hlevel, hshows.printFunc]
        simp only [shouldOutput_iff, true_and]

theorem run_none (text : UInt32 → List UInt8) (inputs : List Input) :
    run (EspLog.step text) none inputs = (none, []) := by
  induction inputs with
  | nil => rfl
  | cons i inputs ih =>
    rw [run_cons]
    show ((run (EspLog.step text) none inputs).1, [] ++ (run (EspLog.step text) none inputs).2) = _
    rw [ih]
    rfl

/-- Induction on the calls. -/
theorem shows_run (hinj : used.InjOn fun tag => cstr (text tag)) (h : Shows text used s t)
    {inputs : List Input} (hused : ∀ tag ∈ inputs.filterMap Input.tag, tag ∈ used) :
    (run (EspLog.step text) (some s) inputs).2 <+: (run (Levels.step text) t inputs).2
      ∧ ∀ s', (run (EspLog.step text) (some s) inputs).1 = some s' →
        (run (EspLog.step text) (some s) inputs).2 = (run (Levels.step text) t inputs).2 := by
  induction inputs generalizing s t with
  | nil => exact ⟨List.prefix_rfl, fun _ _ => rfl⟩
  | cons i inputs ih =>
    have hi (tag : UInt32) (htag : i.tag = some tag) : tag ∈ used :=
      hused tag (List.mem_filterMap.mpr ⟨i, List.mem_cons_self, htag⟩)
    have hrest : ∀ tag ∈ inputs.filterMap Input.tag, tag ∈ used := fun tag htag =>
      let ⟨j, hj, heq⟩ := List.mem_filterMap.mp htag
      hused tag (List.mem_filterMap.mpr ⟨j, List.mem_cons_of_mem i hj, heq⟩)
    rw [run_cons, run_cons]
    rcases shows_step hinj h i hi with hstep | ⟨s', hstep, hshows⟩
    · rw [hstep, run_none]
      exact ⟨List.nil_prefix, fun s' heq => nomatch heq⟩
    · rw [hstep]
      obtain ⟨hshown, hwhole⟩ := ih hshows hrest
      exact ⟨(List.prefix_append_right_inj _).mpr hshown,
        fun s'' heq => congrArg _ (hwhole s'' heq)⟩

theorem shows_init (text : UInt32 → List UInt8) (used : Set UInt32) (printFunc : UInt32) :
    Shows text used (EspLog.init printFunc) { printFunc } :=
  ⟨rfl, fun _ => rfl, rfl, fun _ he => absurd he List.not_mem_nil,
    fun _ he => absurd he List.not_mem_nil, List.nodup_nil⟩

/-- **The cache never shows.** Whatever is set and logged, in any order: when no two tags that are
looked up have one text, every call shows what the table of levels says, for as long as no
`assert` fails. -/
theorem run_levels (text : UInt32 → List UInt8) (printFunc : UInt32) {inputs : List Input}
    (hdistinct : ∀ p ∈ inputs.filterMap Input.tag, ∀ q ∈ inputs.filterMap Input.tag,
      cstr (text p) = cstr (text q) → p = q) :
    (run (EspLog.step text) (some (.init printFunc)) inputs).2
        <+: (run (Levels.step text) { printFunc } inputs).2
      ∧ ∀ s, (run (EspLog.step text) (some (.init printFunc)) inputs).1 = some s →
        (run (EspLog.step text) (some (.init printFunc)) inputs).2
          = (run (Levels.step text) { printFunc } inputs).2 := by
  have hinj : Set.InjOn (fun tag => cstr (text tag)) {tag | tag ∈ inputs.filterMap Input.tag} :=
    fun p hp q hq => hdistinct p hp q hq
  exact shows_run hinj (shows_init text _ printFunc) fun _ htag => htag

/-- The texts of some tags. -/
def sampleText (tag : UInt32) : List UInt8 :=
  if tag = 0 then ascii ['*'] else [0x74, UInt8.ofNat tag.toNat]

/-- A tag is silenced after it has been cached; then all levels are set anew. -/
def sampleCalls : List Input :=
  [.writev .info 1 true, .writev .info 2 true, .levelSet 1 .warn true, .writev .info 1 true,
    .levelSet 0 .error true, .writev .error 1 true, .writev .info 2 true]

theorem run_levels_sampleCalls :
    (run (EspLog.step sampleText) (some (.init 7)) sampleCalls).2
      = [.printed 7, .printed 7, .dropped, .printed 7, .dropped] := by
  have htags : sampleCalls.filterMap Input.tag = [1, 2, 1, 1, 2] := by decide
  have hmem (p : UInt32) (hp : p ∈ sampleCalls.filterMap Input.tag) : p = 1 ∨ p = 2 := by
    rw [htags] at hp
    grind
  have hdistinct : ∀ p ∈ sampleCalls.filterMap Input.tag, ∀ q ∈ sampleCalls.filterMap Input.tag,
      cstr (sampleText p) = cstr (sampleText q) → p = q := by
    intro p hp q hq htext
    rcases hmem p hp with rfl | rfl
    · rcases hmem q hq with rfl | rfl
      · rfl
      · exact absurd htext (by decide)
    · rcases hmem q hq with rfl | rfl
      · exact absurd htext (by decide)
      · rfl
  have hsome : (run (EspLog.step sampleText) (some (.init 7)) sampleCalls).1.isSome = true := by
    decide +kernel
  obtain ⟨s, hs⟩ := Option.isSome_iff_exists.mp hsome
  exact ((run_levels sampleText 7 hdistinct).2 s hs).trans (by decide +kernel)

end ControlFan.Log
