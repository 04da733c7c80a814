import ControlFan.Lib.Slots
import ControlFan.Blynk.Args

/-!
# Blynk — the table of command handlers

`blynk_set_handler` and `blynk_remove_handler` keep the handlers of the application in eight
slots, under names that are cut to seven bytes; a slot is free when its name is empty. What the
table should be is a finite map from names to handlers, the `Registry`.

* **`blynkSetHandler`**, **`blynkRemoveHandler`**, **`findHandler`** — the three that search it,
  each with the same comparison of eight bytes;
* **`Mirrors`** — the table holds what the registry says;
* **`Mirrors.set`**, **`Mirrors.remove`**, **`Mirrors.find`** — it does so as long as no name of a set
  is empty or longer than seven bytes.
-/

namespace ControlFan.Blynk

open CString Slots

def blynkMaxHandlers : Nat := 8

/-- A slot of `handlers`; the handler is a function of the application, `none` for `NULL`. -/
structure HandlerSlot where
  command : CArray 8
  handler : Option Nat
  data : Nat
  deriving DecidableEq, Repr

abbrev Handlers := Table HandlerSlot blynkMaxHandlers

/-- The table that `blynk_init` leaves. -/
def Handlers.empty : Handlers :=
  Table.fill blynkMaxHandlers { command := CArray.zero 8, handler := none, data := 0 }

theorem length_strlcpy {n : Nat} (dst : CArray (n + 1)) (src : List UInt8) :
    ((cstr src).take n ++ 0 :: dst.bytes.drop (min n (cstr src).length + 1)).length = n + 1 := by
  have hdst := dst.hlen
  simp only [List.length_append, List.length_take, List.length_cons, List.length_drop]
  omega

/-- `strlcpy(dst, src, sizeof(dst))`; what stands behind the NUL stays. -/
def strlcpy {n : Nat} (dst : CArray (n + 1)) (src : List UInt8) : CArray (n + 1) :=
  ⟨(cstr src).take n ++ 0 :: dst.bytes.drop (min n (cstr src).length + 1), length_strlcpy dst src⟩

/-- `strncmp(s->handlers[i].command, command, 8) == 0`. -/
def HandlerSlot.named (s : HandlerSlot) (command : List UInt8) : Bool :=
  strncmp s.command.bytes command 8 == 0

/-- `!s->handlers[i].command[0]`. -/
def HandlerSlot.free (s : HandlerSlot) : Bool := deref s.command.bytes == 0

def blynkSetHandler (t : Handlers) (command : List UInt8) (handler : Option Nat) (data : Nat) :
    Handlers × BlynkErr :=
  match t.modifyFirst (·.named command) fun s => { s with handler := handler, data := data } with
  | some t => (t, .ok)
  | none =>
    -- the first free slot
    match t.modifyFirst (·.free) fun s =>
        { command := strlcpy s.command command, handler := handler, data := data } with
    | some t => (t, .ok)
    | none => (t, .mem)

def blynkRemoveHandler (t : Handlers) (command : List UInt8) : Handlers :=
  (t.modifyFirst (·.named command) fun s =>
    { command := s.command.set 0 0, handler := none, data := 0 }).getD t

/-- The search of `handle_message`, for the first argument of a command. -/
def findHandler (t : Handlers) (name : List UInt8) : Option HandlerSlot :=
  t.slots.find? fun s => s.named name && s.handler.isSome

/-! ## Names -/

theorem HandlerSlot.free_iff {s : HandlerSlot} : s.free = true ↔ cstr s.command.bytes = [] := by
  unfold HandlerSlot.free
  rw [beq_iff_eq]
  cases s.command.bytes with
  | nil => simp
  | cons b bytes =>
    rcases eq_or_ne b 0 with rfl | hb
    · simp
    · simp [hb, cstr_cons_of_ne hb]

theorem length_cstr_lt {n : Nat} {a : CArray n} (h : 0 ∈ a.bytes) : (cstr a.bytes).length < n := by
  have hlen := a.hlen
  obtain ⟨rest, hrest⟩ := CBuffer.exists_of_zero_mem h
  have hlength := congrArg List.length hrest
  rw [List.length_append, List.length_cons] at hlength
  omega

/-- The comparison of eight bytes is a comparison of names, as long as the slot holds a
terminated one. -/
theorem HandlerSlot.named_iff {s : HandlerSlot} (hs : 0 ∈ s.command.bytes) (name : List UInt8) :
    s.named name = true ↔ cstr s.command.bytes = cstr name := by
  have hlt := length_cstr_lt hs
  have htake : s.command.bytes.take 8 = s.command.bytes :=
    List.take_of_length_le (by rw [s.command.hlen])
  have hname : cstr (name.take 8) = (cstr name).take 8 := takeWhile_take _ name 8
  unfold HandlerSlot.named
  rw [beq_iff_eq, strncmp_eq_zero_iff, htake, hname]
  constructor
  · intro h
    have hlength := congrArg List.length h
    rw [List.length_take] at hlength
    rw [h, List.take_of_length_le (by omega)]
  · intro h
    rw [← h, List.take_of_length_le (by omega)]

theorem cstr_strlcpy {n : Nat} (dst : CArray (n + 1)) (src : List UInt8) :
    cstr (strlcpy dst src).bytes = (cstr src).take n :=
  CBuffer.cstr_append_zero (fun h => zero_notMem_cstr src (List.mem_of_mem_take h)) _

theorem zero_mem_strlcpy {n : Nat} (dst : CArray (n + 1)) (src : List UInt8) :
    0 ∈ (strlcpy dst src).bytes :=
  List.mem_append_right _ List.mem_cons_self

/-! ## The registry -/

/-- What the table stands for: the handler, which may be `NULL`, and the data of a name. -/
abbrev Registry := List UInt8 → Option (Option Nat × Nat)

def HandlerSlot.entry (s : HandlerSlot) : Option (List UInt8 × (Option Nat × Nat)) :=
  if s.free then none else some (cstr s.command.bytes, (s.handler, s.data))

structure Mirrors (t : Handlers) (reg : Registry) : Prop where
  map : Represents HandlerSlot.entry t.slots reg
  terminated : ∀ s ∈ t.slots, 0 ∈ s.command.bytes
  freed : ∀ s ∈ t.slots, s.free = true → s.handler = none

theorem mirrors_empty : Mirrors .empty fun _ => none := by
  have hslot : ∀ s ∈ Handlers.empty.slots, s
      = { command := CArray.zero 8, handler := none, data := 0 } := fun s hs =>
    List.eq_of_mem_replicate hs
  refine ⟨⟨by decide, fun k v => ?_⟩, fun s hs => ?_, fun s hs _ => ?_⟩
  · constructor
    · intro h
      cases h
    · rintro ⟨s, hs, hentry⟩
      rw [hslot s hs] at hentry
      exact absurd hentry (by simp [HandlerSlot.entry, HandlerSlot.free, CArray.zero])
  · rw [hslot s hs]
    decide
  · rw [hslot s hs]

section Mirrors

variable {t : Handlers} {reg : Registry}

theorem Mirrors.entry_of_named (h : Mirrors t reg) {s : HandlerSlot} (hs : s ∈ t.slots)
    {name : List UInt8} (hnamed : s.named name = true) (hne : cstr name ≠ []) :
    s.entry = some (cstr name, (s.handler, s.data)) := by
  have hname := (HandlerSlot.named_iff (h.terminated s hs) name).mp hnamed
  have hused : s.free = false := by
    rw [Bool.eq_false_iff, ne_eq, HandlerSlot.free_iff, hname]
    exact hne
  rw [HandlerSlot.entry, hused, hname]
  rfl

/-- A name that no slot has is not registered. -/
theorem Mirrors.eq_none (h : Mirrors t reg) {name : List UInt8}
    (hnone : ∀ s ∈ t.slots, s.named name = false) : reg (cstr name) = none := by
  by_contra hsome
  obtain ⟨v, hv⟩ := Option.ne_none_iff_exists'.mp hsome
  obtain ⟨s, hs, hentry⟩ := (h.map.spec _ v).mp hv
  unfold HandlerSlot.entry at hentry
  split_ifs at hentry
  have hname := (Prod.mk.inj (Option.some_inj.mp hentry)).1
  have hnamed := (HandlerSlot.named_iff (h.terminated s hs) name).mpr hname
  rw [hnone s hs] at hnamed
  exact absurd hnamed (by decide)

theorem Mirrors.eq_none_nil (h : Mirrors t reg) : reg [] = none := by
  by_contra hsome
  obtain ⟨v, hv⟩ := Option.ne_none_iff_exists'.mp hsome
  obtain ⟨s, hs, hentry⟩ := (h.map.spec _ v).mp hv
  unfold HandlerSlot.entry at hentry
  split_ifs at hentry with hfree
  exact hfree (HandlerSlot.free_iff.mpr (Prod.mk.inj (Option.some_inj.mp hentry)).1)

/-- One slot of the table changes, and with it one name of the registry. -/
theorem Mirrors.replace (h : Mirrors t reg) {t' : Handlers} {pre post : List HandlerSlot}
    {a b : HandlerSlot} {name : List UInt8} {v : Option (Option Nat × Nat)}
    (hslots : t.slots = pre ++ a :: post) (hslots' : t'.slots = pre ++ b :: post)
    (ha : (a.entry = none ∧ reg name = none) ∨ ∃ v₀, a.entry = some (name, v₀))
    (hb : b.entry = v.map fun v => (name, v)) (hterm : 0 ∈ b.command.bytes)
    (hfreed : b.free = true → b.handler = none) : Mirrors t' (Function.update reg name v) := by
  have hmem : ∀ s ∈ t'.slots, s = b ∨ s ∈ t.slots := by
    intro s hs
    rw [hslots'] at hs
    rw [hslots]
    simp only [List.mem_append, List.mem_cons] at hs ⊢
    tauto
  have hmap := h.map
  rw [hslots] at hmap
  refine ⟨by rw [hslots']; exact hmap.replace ha hb, fun s hs => ?_, fun s hs => ?_⟩
  · rcases hmem s hs with rfl | hold
    · exact hterm
    · exact h.terminated s hold
  · rcases hmem s hs with rfl | hold
    · exact hfreed
    · exact h.freed s hold

/-- `blynk_set_handler` with a name that fits: the name is registered, or there are eight others. -/
theorem Mirrors.set (h : Mirrors t reg) {name : List UInt8} (hne : cstr name ≠ [])
    (hfits : (cstr name).length ≤ 7) (handler : Option Nat) (data : Nat) :
    ((blynkSetHandler t name handler data).2 = .ok
        ∧ Mirrors (blynkSetHandler t name handler data).1
          (Function.update reg (cstr name) (some (handler, data))))
      ∨ ((blynkSetHandler t name handler data).2 = .mem
        ∧ (blynkSetHandler t name handler data).1 = t ∧ reg (cstr name) = none
        ∧ ∀ s ∈ t.slots, s.free = false) := by
  unfold blynkSetHandler
  rcases t.modifyFirst_cases (·.named name) (fun s => { s with handler := handler, data := data })
    with ⟨hnone, hother⟩ | ⟨pre, a, post, t', hslots, -, hnamed, hsome, hslots'⟩
  · rw [hnone]
    have hreg := h.eq_none hother
    rcases t.modifyFirst_cases (·.free) (fun s =>
        { command := strlcpy s.command name, handler := handler, data := data })
      with ⟨hnone', hfull⟩ | ⟨pre, a, post, t', hslots, -, hfree, hsome, hslots'⟩
    · rw [hnone']
      exact Or.inr ⟨rfl, rfl, hreg, hfull⟩
    · -- a free slot gets the name
      rw [hsome]
      have hcmd : cstr (strlcpy a.command name).bytes = cstr name := by
        rw [cstr_strlcpy, List.take_of_length_le hfits]
      have hused : ({ command := strlcpy a.command name, handler := handler, data := data }
          : HandlerSlot).free = false := by
        rw [Bool.eq_false_iff, ne_eq, HandlerSlot.free_iff, hcmd]
        exact hne
      refine Or.inl ⟨rfl, h.replace hslots hslots' (Or.inl ⟨if_pos hfree, hreg⟩) ?_
        (zero_mem_strlcpy a.command name) fun hfree' => ?_⟩
      · rw [HandlerSlot.entry, hused, hcmd]
        rfl
      · rw [hused] at hfree'
        exact absurd hfree' (by decide)
  · -- the name has a slot
    rw [hsome]
    have ha : a ∈ t.slots := by
      rw [hslots]
      exact List.mem_append_right _ List.mem_cons_self
    have hentry := h.entry_of_named ha hnamed hne
    have hentry' := h.entry_of_named ha hnamed hne
    unfold HandlerSlot.entry at hentry
    split_ifs at hentry with hused
    refine Or.inl ⟨rfl, h.replace hslots hslots' (Or.inr ⟨_, hentry'⟩) ?_
      (h.terminated a ha) fun hfree => absurd hfree hused⟩
    show (if a.free then none else some (cstr a.command.bytes, (handler, data))) = _
    rw [if_neg hused, (Prod.mk.inj (Option.some_inj.mp hentry)).1]
    rfl

theorem HandlerSlot.free_cleared (command : CArray 8) (data : Nat) :
    ({ command := command.set 0 0, handler := none, data := data } : HandlerSlot).free = true := by
  show (deref (command.bytes.set 0 0) == 0) = true
  cases command.bytes <;> rfl

/-- `blynk_remove_handler`, with any name. -/
theorem Mirrors.remove (h : Mirrors t reg) (name : List UInt8) :
    Mirrors (blynkRemoveHandler t name) (Function.update reg (cstr name) none) := by
  unfold blynkRemoveHandler
  rcases t.modifyFirst_cases (·.named name)
      (fun s => { command := s.command.set 0 0, handler := none, data := 0 })
    with ⟨hnone, hother⟩ | ⟨pre, a, post, t', hslots, -, hnamed, hsome, hslots'⟩
  · rw [hnone, Function.update_eq_self_iff.mpr (h.eq_none hother).symm]
    exact h
  · rw [hsome]
    have ha : a ∈ t.slots := by
      rw [hslots]
      exact List.mem_append_right _ List.mem_cons_self
    have hfree := HandlerSlot.free_cleared a.command 0
    refine h.replace hslots hslots' ?_ (if_pos hfree) ?_ fun _ => rfl
    · -- the empty name finds a free slot
      rcases eq_or_ne (cstr name) [] with hnil | hne
      · have hname := (HandlerSlot.named_iff (h.terminated a ha) name).mp hnamed
        rw [hnil] at hname ⊢
        exact Or.inl ⟨if_pos (HandlerSlot.free_iff.mpr hname), h.eq_none_nil⟩
      · exact Or.inr ⟨_, h.entry_of_named ha hnamed hne⟩
    · show 0 ∈ a.command.bytes.set 0 0
      exact List.mem_set (by rw [a.command.hlen]; decide) 0

/-- **The search.** The handler that is found is the registered one, if that is not `NULL`. -/
theorem Mirrors.find (h : Mirrors t reg) (name : List UInt8) :
    (findHandler t name).map (fun s => (s.handler, s.data))
      = (reg (cstr name)).filter fun v => v.1.isSome := by
  have hspec := h.map.spec (cstr name)
  unfold findHandler
  cases hfind : t.slots.find? fun s => s.named name && s.handler.isSome with
  | none =>
    -- no slot has the name and a handler
    rw [Option.map_none, eq_comm, Option.filter_eq_none_iff]
    intro v hv hsome
    obtain ⟨s, hs, hentry⟩ := (hspec v).mp hv
    unfold HandlerSlot.entry at hentry
    split_ifs at hentry
    obtain ⟨hname, rfl⟩ := Prod.mk.inj (Option.some_inj.mp hentry)
    have hnot := List.find?_eq_none.mp hfind s hs
    rw [(HandlerSlot.named_iff (h.terminated s hs) name).mpr hname, Bool.true_and] at hnot
    exact hnot hsome
  | some s =>
    have hs := List.mem_of_find?_eq_some hfind
    have hfound := List.find?_some hfind
    rw [Bool.and_eq_true] at hfound
    obtain ⟨hnamed, hhandler⟩ := hfound
    have hname := (HandlerSlot.named_iff (h.terminated s hs) name).mp hnamed
    have hused : ¬ s.free = true := by
      intro hfree
      rw [h.freed s hs hfree] at hhandler
      exact absurd hhandler (by decide)
    have hentry : s.entry = some (cstr name, (s.handler, s.data)) := by
      rw [HandlerSlot.entry, if_neg hused, hname]
    rw [Option.map_some, (hspec _).mpr ⟨s, hs, hentry⟩, Option.filter_some, if_pos hhandler]

end Mirrors

/-! ## Runs of calls -/

inductive HandlerCall where
  | set (name : List UInt8) (handler : Option Nat) (data : Nat)
  | remove (name : List UInt8)
  deriving DecidableEq, Repr

/-- The table of the client, and what was registered with success and not removed since. -/
structure Registered where
  handlers : Handlers
  registry : Registry

def Registered.empty : Registered := { handlers := .empty, registry := fun _ => none }

/-- One call, with its result. -/
def Registered.step (r : Registered) : HandlerCall → Registered × List BlynkErr
  | .set name handler data =>
    let (t, ret) := blynkSetHandler r.handlers name handler data
    ({ handlers := t
       registry := if ret = .ok then Function.update r.registry (cstr name) (some (handler, data))
         else r.registry }, [ret])
  | .remove name =>
    ({ handlers := blynkRemoveHandler r.handlers name
       registry := Function.update r.registry (cstr name) none }, [.ok])

/-- A name that a slot can hold. -/
def HandlerCall.Fits : HandlerCall → Prop
  | .set name _ _ => cstr name ≠ [] ∧ (cstr name).length ≤ 7
  | .remove _ => True

theorem Registered.mirrors_step {r : Registered} (h : Mirrors r.handlers r.registry)
    {call : HandlerCall} (hfits : call.Fits) :
    Mirrors (r.step call).1.handlers (r.step call).1.registry := by
  cases call with
  | remove name => exact h.remove name
  | set name handler data =>
    rcases h.set hfits.1 hfits.2 handler data with ⟨hok, hset⟩ | ⟨hmem, hsame, -, -⟩
    · show Mirrors _ (if (blynkSetHandler r.handlers name handler data).2 = .ok then _ else _)
      rw [if_pos hok]
      exact hset
    · show Mirrors (blynkSetHandler r.handlers name handler data).1
        (if (blynkSetHandler r.handlers name handler data).2 = .ok then _ else _)
      rw [hmem, if_neg (by decide), hsame]
      exact h

end ControlFan.Blynk
