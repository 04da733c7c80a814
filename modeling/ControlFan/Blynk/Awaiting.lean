import ControlFan.Lib.Slots
import ControlFan.Blynk.Codec

/-!
# Blynk — the table of requests that wait for a response

`get_id` numbers the messages of a connection; a message with a response handler also gets one
of the 32 slots of `p->awaiting`, which a response with its id or the end of its time sets free.
A slot is free when its id is zero. When the counter is used up, `get_id` starts again at zero
and fills the whole table with the byte 9.

* **`getId`**, **`Requests.answer`**, **`Requests.expire`** — the three that touch the table;
* **`Requests.Sound`** — what holds between two of them: the ids in the table are different,
  and below the counter;
* **`getId_cases`**, **`getId_wrap`** — what `get_id` does, before and at the end of the counter;
* **`allocated_iff_run`** — `get_id` does what it should exactly up to there.
-/

namespace ControlFan.Blynk

open Machine Slots

def blynkMaxAwaiting : Nat := 32

/-- A slot of `p->awaiting`. `TickType_t` values are kept unreduced, every use takes them modulo
`2 ^ 32`. `req` is not in the source: it says which of the queued requests the slot is for. -/
structure Awaiting where
  id : UInt16
  deadline : Nat
  handler : Option ResponseHandler
  data : Nat
  req : Nat
  deriving DecidableEq, Repr

/-- A slot behind `memset(.., 0, ..)`. -/
def Awaiting.zeroed : Awaiting := { id := 0, deadline := 0, handler := none, data := 0, req := 0 }

/-- A slot behind `memset(.., 9, ..)`. -/
def Awaiting.nines : Awaiting where
  id := 0x0909
  deadline := 0x09090909
  handler := some (.wild 0x09090909)
  data := 0x09090909
  req := 0

structure Requests where
  id : UInt16
  awaiting : Table Awaiting blynkMaxAwaiting
  deriving DecidableEq, Repr

/-- The table and the counter as `blynk_loop` resets them. -/
def Requests.reset : Requests := { id := 1, awaiting := Table.fill blynkMaxAwaiting .zeroed }

/-- `get_id` for the request `req`. -/
def getId (r : Requests) (deadline : Nat) (handler : Option ResponseHandler) (data req : Nat) :
    Requests × UInt16 :=
  let r := if r.id = 0xffff then
      { id := 0, awaiting := Table.fill blynkMaxAwaiting .nines }
    else r
  let id := r.id
  let r := { r with id := r.id + 1 }
  match handler with
  | none => (r, id)
  | some h =>
    match r.awaiting.modifyFirst (fun a => a.id == 0) fun _ =>
        { id := id, deadline := deadline, handler := some h, data := data, req := req } with
    | some awaiting => ({ r with awaiting := awaiting }, id)
    | none => (r, 0)

def Awaiting.answers (a : Awaiting) (id : UInt16) : Bool := a.id != 0 && a.id == id

/-- The loop of `handle_message` over the table, for a response to `id`: the slots whose
handlers it calls, and the table with these slots free. -/
def Requests.answer (r : Requests) (id : UInt16) : Requests × List Awaiting :=
  ({ r with awaiting := r.awaiting.map fun a => if a.answers id then { a with id := 0 } else a },
    r.awaiting.slots.filter (·.answers id))

/-- `timerExpired`: the difference of two tick counts as an `int32_t`. -/
def timerExpired (deadline now : Nat) : Bool := Int.bmod ((deadline : Int) - now) (2 ^ 32) ≤ 0

/-- The slot is in use, has a deadline, and the deadline has passed. -/
def Awaiting.due (a : Awaiting) (now : Nat) : Bool :=
  a.id != 0 && a.deadline % 2 ^ 32 != 0 && timerExpired a.deadline now

/-- One round of the loop of `handle_timers`, for the slot `i`. -/
def Requests.expire (r : Requests) (i now : Nat) : Requests × Option Awaiting :=
  match r.awaiting.slots[i]? with
  | none => (r, none)
  | some a =>
    if a.due now then
      ({ r with awaiting := r.awaiting.modify i fun a => { a with id := 0 } }, some a)
    else (r, none)

/-! ## The table between two operations -/

def Awaiting.key (a : Awaiting) : Option UInt16 := if a.id = 0 then none else some a.id

/-- The ids of the outstanding requests. -/
def Requests.ids (r : Requests) : List UInt16 := keys Awaiting.key r.awaiting.slots

structure Requests.Sound (r : Requests) : Prop where
  pos : r.id ≠ 0
  below : ∀ id ∈ r.ids, id.toNat < r.id.toNat
  nodup : r.ids.Nodup

theorem mem_ids {r : Requests} {id : UInt16} :
    id ∈ r.ids ↔ id ≠ 0 ∧ ∃ a ∈ r.awaiting.slots, a.id = id := by
  unfold Requests.ids Awaiting.key
  rw [mem_keys]
  constructor
  · rintro ⟨a, ha, hkey⟩
    split_ifs at hkey with hzero
    cases hkey
    exact ⟨hzero, a, ha, rfl⟩
  · rintro ⟨hne, a, ha, rfl⟩
    exact ⟨a, ha, if_neg hne⟩

theorem Requests.sound_reset : Requests.reset.Sound := by
  refine ⟨by decide, ?_, ?_⟩
  · intro id hid
    exact absurd hid (by rw [show Requests.reset.ids = [] from rfl]; exact List.not_mem_nil)
  · exact List.nodup_nil

/-- The slot stays as it is, or is set free. -/
def Awaiting.Freed (a b : Awaiting) : Prop := b = a ∨ b = { a with id := 0 }

theorem Requests.Sound.of_freed {r : Requests} (h : r.Sound)
    {awaiting : Table Awaiting blynkMaxAwaiting}
    (hfreed : List.Forall₂ Awaiting.Freed r.awaiting.slots awaiting.slots) :
    ({ r with awaiting := awaiting } : Requests).Sound := by
  have hsub : (({ r with awaiting := awaiting } : Requests).ids).Sublist r.ids := by
    refine keys_sublist (hfreed.imp ?_)
    rintro a b (rfl | rfl)
    · exact Or.inr rfl
    · exact Or.inl rfl
  exact ⟨h.pos, fun id hid => h.below id (hsub.subset hid), h.nodup.sublist hsub⟩

theorem Requests.freed_answer (r : Requests) (id : UInt16) :
    List.Forall₂ Awaiting.Freed r.awaiting.slots (r.answer id).1.awaiting.slots := by
  refine forall₂_map (fun a => ?_) r.awaiting.slots
  split_ifs
  · exact Or.inr rfl
  · exact Or.inl rfl

theorem Requests.expire_cases (r : Requests) (i now : Nat) :
    r.expire i now = (r, none)
      ∨ ∃ a, r.awaiting.slots[i]? = some a ∧ a.due now = true
        ∧ r.expire i now
          = ({ r with awaiting := r.awaiting.modify i fun a => { a with id := 0 } }, some a) := by
  unfold Requests.expire
  cases hslot : r.awaiting.slots[i]? with
  | none => exact Or.inl rfl
  | some a =>
    cases hdue : a.due now with
    | false => exact Or.inl (by simp only [hdue, Bool.false_eq_true, if_false])
    | true => exact Or.inr ⟨a, rfl, hdue, by simp only [hdue, if_true]⟩

theorem Requests.Sound.answer {r : Requests} (h : r.Sound) (id : UInt16) : (r.answer id).1.Sound :=
  h.of_freed (r.freed_answer id)

theorem Requests.Sound.expire {r : Requests} (h : r.Sound) (i now : Nat) :
    (r.expire i now).1.Sound := by
  rcases r.expire_cases i now with hsame | ⟨a, -, -, hfree⟩
  · rw [hsame]
    exact h
  · rw [hfree]
    exact h.of_freed (forall₂_modify (R := Awaiting.Freed) (fun _ => Or.inl rfl)
      (fun _ => Or.inr rfl) _ _)

/-- A response is for one request at most. -/
theorem Requests.Sound.answer_cases {r : Requests} (h : r.Sound) (id : UInt16) :
    (r.answer id).2 = []
      ∨ ∃ a ∈ r.awaiting.slots, a.id ≠ 0 ∧ a.id = id ∧ (r.answer id).2 = [a] := by
  have hmem : ∀ a ∈ (r.answer id).2, a ∈ r.awaiting.slots ∧ a.id ≠ 0 ∧ a.id = id := by
    intro a ha
    obtain ⟨hslot, hanswers⟩ := List.mem_filter.mp ha
    unfold Awaiting.answers at hanswers
    rw [Bool.and_eq_true, bne_iff_ne, beq_iff_eq] at hanswers
    exact ⟨hslot, hanswers⟩
  -- the ids of the slots that answer are all the same, and no two slots have the same id
  have hkeys : keys Awaiting.key (r.answer id).2 = List.replicate (r.answer id).2.length id := by
    rw [← List.map_const', ← List.filterMap_eq_map]
    refine List.filterMap_congr fun a ha => ?_
    rw [Awaiting.key, if_neg (hmem a ha).2.1, (hmem a ha).2.2]
    rfl
  have hsub : (keys Awaiting.key (r.answer id).2).Sublist r.ids :=
    List.Sublist.filterMap _ List.filter_sublist
  have hone : (r.answer id).2.length ≤ 1 := by
    rw [← List.nodup_replicate (a := id), ← hkeys]
    exact h.nodup.sublist hsub
  cases hcalled : (r.answer id).2 with
  | nil => exact Or.inl rfl
  | cons a rest =>
    rw [hcalled, List.length_cons] at hone
    have hnil : rest = [] := List.eq_nil_of_length_eq_zero (by omega)
    have ha := hmem a (by rw [hcalled]; exact List.mem_cons_self)
    exact Or.inr ⟨a, ha.1, ha.2.1, ha.2.2, by rw [hnil]⟩

/-- What is outstanding behind a response to `id`. -/
theorem Requests.live_answer {r : Requests} {id : UInt16} {b : Awaiting}
    (hb : b ∈ (r.answer id).1.awaiting.slots) (hlive : b.id ≠ 0) :
    b ∈ r.awaiting.slots ∧ b.id ≠ id := by
  obtain ⟨a, ha, rfl⟩ := List.mem_map.mp hb
  cases hanswers : a.answers id with
  | true =>
    rw [hanswers] at hlive
    exact absurd rfl hlive
  | false =>
    rw [hanswers, if_neg Bool.false_ne_true] at hlive
    rw [if_neg Bool.false_ne_true]
    refine ⟨ha, fun heq => ?_⟩
    unfold Awaiting.answers at hanswers
    rw [heq, beq_self_eq_true, Bool.and_true, bne_eq_false_iff_eq] at hanswers
    exact hlive (heq.trans hanswers)

/-- What is outstanding behind the slot that a timer sets free. -/
theorem Requests.Sound.live_expire {r r' : Requests} (h : r.Sound) {i now : Nat} {a : Awaiting}
    (hexpire : r.expire i now = (r', some a)) :
    a ∈ r.awaiting.slots ∧ a.due now = true
      ∧ ∀ b ∈ r'.awaiting.slots, b.id ≠ 0 → b ∈ r.awaiting.slots ∧ b.id ≠ a.id := by
  rcases r.expire_cases i now with hnone | ⟨a', hslot, hdue, hsome⟩
  · rw [hnone] at hexpire
    cases hexpire
  rw [hsome] at hexpire
  cases hexpire
  obtain ⟨hlt, hget⟩ := List.getElem?_eq_some_iff.mp hslot
  have hlive : a.id ≠ 0 := by
    intro hzero
    rw [Awaiting.due, hzero] at hdue
    cases hdue
  have hsplit : r.awaiting.slots
      = r.awaiting.slots.take i ++ a :: r.awaiting.slots.drop (i + 1) := by
    rw [← hget, ← List.drop_eq_getElem_cons hlt, List.take_append_drop]
  have hmodify : r.awaiting.slots.modify i (fun a => { a with id := 0 })
      = r.awaiting.slots.take i ++ { a with id := 0 } :: r.awaiting.slots.drop (i + 1) := by
    rw [List.modify_eq_take_cons_drop hlt, hget]
  have hnodup := h.nodup
  unfold Requests.ids at hnodup
  rw [hsplit, (keys_middle _ _ _).nodup_iff, Awaiting.key, if_neg hlive] at hnodup
  refine ⟨List.mem_of_getElem? hslot, hdue, fun b hb hb0 => ?_⟩
  have hother : b ∈ r.awaiting.slots.take i ++ r.awaiting.slots.drop (i + 1) := by
    rw [show (r.awaiting.modify i fun a => { a with id := 0 }).slots = _ from hmodify] at hb
    rcases List.mem_append.mp hb with hpre | hpost
    · exact List.mem_append_left _ hpre
    · rcases List.mem_cons.mp hpost with rfl | hpost
      · exact absurd rfl hb0
      · exact List.mem_append_right _ hpost
  constructor
  · rw [hsplit]
    rcases List.mem_append.mp hother with hpre | hpost
    · exact List.mem_append_left _ hpre
    · exact List.mem_append_right _ (List.mem_cons_of_mem _ hpost)
  · intro heq
    refine (List.nodup_cons.mp hnodup).1 (mem_keys.mpr ⟨b, hother, ?_⟩)
    rw [Awaiting.key, if_neg hb0, heq]

/-! ## `get_id` -/

section GetId

variable {r : Requests} {deadline data req : Nat} {handler : Option ResponseHandler}

/-- **The end of the counter.** The request gets no id, and no slot of the table is left as it
was. -/
theorem getId_wrap (h : r.id = 0xffff) :
    getId r deadline handler data req
      = ({ id := 1, awaiting := Table.fill blynkMaxAwaiting .nines }, 0) := by
  unfold getId
  rw [if_pos h]
  cases handler with
  | none => rfl
  | some handler =>
    have hfull : (Table.fill blynkMaxAwaiting Awaiting.nines).modifyFirst (fun a => a.id == 0)
        (fun _ => { id := 0, deadline := deadline, handler := some handler, data := data
                    req := req }) = none := by
      rcases Table.modifyFirst_cases (Table.fill blynkMaxAwaiting Awaiting.nines)
        (fun a => a.id == 0) _ with ⟨hnone, -⟩ | ⟨pre, a, post, -, hslots, -, hfree, -⟩
      · exact hnone
      · have ha : a ∈ List.replicate blynkMaxAwaiting Awaiting.nines := by
          rw [show List.replicate blynkMaxAwaiting Awaiting.nines = pre ++ a :: post from hslots]
          exact List.mem_append_right _ List.mem_cons_self
        rw [List.eq_of_mem_replicate ha] at hfree
        exact absurd hfree (by decide)
    simp only [hfull]
    rfl

/-- **Before the end of the counter** a message gets the next id; with a handler it also gets
the first free slot, and the id zero if there is none. -/
theorem getId_cases (deadline : Nat) (handler : Option ResponseHandler) (data req : Nat)
    (h : r.id ≠ 0xffff) :
    (handler = none
        ∧ getId r deadline handler data req = ({ r with id := r.id + 1 }, r.id))
      ∨ (∃ hd, handler = some hd ∧ (∀ a ∈ r.awaiting.slots, a.id ≠ 0)
        ∧ getId r deadline handler data req = ({ r with id := r.id + 1 }, 0))
      ∨ ∃ hd pre a post awaiting, handler = some hd ∧ r.awaiting.slots = pre ++ a :: post ∧ a.id = 0
        ∧ awaiting.slots = pre ++ { id := r.id, deadline := deadline, handler := some hd, data := data,
                                    req := req } :: post
        ∧ getId r deadline handler data req = ({ id := r.id + 1, awaiting := awaiting }, r.id) := by
  unfold getId
  rw [if_neg h]
  cases handler with
  | none => exact Or.inl ⟨rfl, rfl⟩
  | some hd =>
    right
    rcases Table.modifyFirst_cases r.awaiting (fun a => a.id == 0) (fun _ =>
        { id := r.id, deadline := deadline, handler := some hd, data := data, req := req }) with
      ⟨hnone, hfull⟩ | ⟨pre, a, post, awaiting, hslots, -, hfree, hsome, hnew⟩
    · refine Or.inl ⟨hd, rfl, fun a ha => ?_, by simp only [hnone]⟩
      simpa using hfull a ha
    · exact Or.inr ⟨hd, pre, a, post, awaiting, rfl, hslots, by simpa using hfree, hnew,
        by simp only [hsome]⟩

theorem toNat_succ_id (h : r.id ≠ 0xffff) : (r.id + 1).toNat = r.id.toNat + 1 := by
  have hlt := r.id.toNat_lt
  have hne : r.id.toNat ≠ 65535 := fun heq => h (UInt16.toNat_inj.mp heq)
  rw [UInt16.toNat_add, show (1 : UInt16).toNat = 1 from rfl]
  omega

theorem Requests.Sound.succ (hr : r.Sound) (h : r.id ≠ 0xffff) :
    ({ r with id := r.id + 1 } : Requests).Sound := by
  have hnext := toNat_succ_id h
  refine ⟨fun hzero => ?_, fun id hid => ?_, hr.nodup⟩
  · rw [show r.id + 1 = 0 from hzero] at hnext
    exact absurd hnext (by simp)
  · have hbelow := hr.below id hid
    show id.toNat < (r.id + 1).toNat
    omega

/-- The id of an outstanding request is never the next one. -/
theorem Requests.Sound.fresh (hr : r.Sound) {a : Awaiting} (ha : a ∈ r.awaiting.slots)
    (hlive : a.id ≠ 0) : a.id ≠ r.id := by
  intro heq
  have hbelow := hr.below a.id (mem_ids.mpr ⟨hlive, a, ha, rfl⟩)
  rw [heq] at hbelow
  exact absurd hbelow (Nat.lt_irrefl _)

theorem Requests.Sound.getId (hr : r.Sound) (h : r.id ≠ 0xffff) :
    (Blynk.getId r deadline handler data req).1.Sound := by
  have hnext := toNat_succ_id h
  rcases getId_cases deadline handler data req h with
    ⟨-, hid⟩ | ⟨hd, -, -, hid⟩ | ⟨hd, pre, a, post, awaiting, -, hslots, hfree, hnew, hid⟩
  · rw [hid]
    exact hr.succ h
  · rw [hid]
    exact hr.succ h
  · -- one id more in the table, and it is the largest
    have hperm : (({ id := r.id + 1, awaiting := awaiting } : Requests).ids).Perm (r.id :: r.ids) := by
      unfold Requests.ids
      rw [hslots]
      show (keys Awaiting.key awaiting.slots).Perm _
      rw [hnew]
      exact keys_fill (if_pos hfree) (if_neg hr.pos)
    have hfresh : r.id ∉ r.ids := fun hmem => absurd (hr.below r.id hmem) (Nat.lt_irrefl _)
    rw [hid]
    refine ⟨(hr.succ h).pos, fun id hmem => ?_, hperm.nodup_iff.mpr ?_⟩
    · show id.toNat < (r.id + 1).toNat
      rcases List.mem_cons.mp (hperm.mem_iff.mp hmem) with rfl | hold
      · omega
      · have hbelow := hr.below id hold
        omega
    · exact List.nodup_cons.mpr ⟨hfresh, hr.nodup⟩

end GetId

/-! ## One connection -/

/-- What touches the table during a connection: a message taken from the queue without an id, a
response, one round of the timers. -/
inductive TableOp where
  | request (deadline : Nat) (handler : Option ResponseHandler) (data req : Nat)
  | response (id : UInt16)
  | timer (i now : Nat)
  deriving DecidableEq, Repr

/-- The table of a connection, and whether `blynk_loop` has dropped the connection because a
message got no id. -/
structure Connection where
  requests : Requests
  dropped : Bool
  deriving DecidableEq, Repr

def Connection.start : Connection := { requests := .reset, dropped := false }

/-- One operation, with the id that `get_id` returns. -/
def Connection.step (c : Connection) (op : TableOp) : Connection × List UInt16 :=
  if c.dropped then (c, [])
  else
    match op with
    | .request deadline handler data req =>
      let (r, id) := getId c.requests deadline handler data req
      ({ requests := r, dropped := id == 0 }, [id])
    | .response id => ({ c with requests := (c.requests.answer id).1 }, [])
    | .timer i now => ({ c with requests := (c.requests.expire i now).1 }, [])

/-- What `get_id` should do: the id is new, at most one free slot changes and now holds the
request, and no id is given only if the request asks for a slot and there is none. -/
structure Allocated (r : Requests) (deadline : Nat) (handler : Option ResponseHandler)
    (data req : Nat) (r' : Requests) (id : UInt16) : Prop where
  fresh : id ≠ 0 → ∀ a ∈ r.awaiting.slots, a.id ≠ 0 → a.id ≠ id
  frame : r'.awaiting = r.awaiting
    ∨ ∃ hd pre a post, handler = some hd ∧ r.awaiting.slots = pre ++ a :: post ∧ a.id = 0
      ∧ r'.awaiting.slots = pre ++ { id := id, deadline := deadline, handler := some hd, data := data,
                                     req := req } :: post
  full : id = 0 → handler ≠ none ∧ ∀ a ∈ r.awaiting.slots, a.id ≠ 0

/-- `get_id` does its work whenever the operation calls it. -/
def Connection.Allocates (c : Connection) (op : TableOp) : Prop :=
  c.dropped = false → ∀ deadline handler data req, op = .request deadline handler data req →
    Allocated c.requests deadline handler data req
      (getId c.requests deadline handler data req).1 (getId c.requests deadline handler data req).2

/-- The counter is not used up when the operation calls `get_id`. -/
def Connection.Counts (c : Connection) (op : TableOp) : Prop :=
  c.dropped = false → ∀ deadline handler data req, op = .request deadline handler data req →
    c.requests.id ≠ 0xffff

theorem not_allocated_wrap {r : Requests} {deadline data req : Nat}
    {handler : Option ResponseHandler} (hr : r.Sound) :
    ¬ Allocated r deadline handler data req
      { id := 1, awaiting := Table.fill blynkMaxAwaiting .nines } 0 := by
  intro h
  obtain ⟨-, hfull⟩ := h.full rfl
  rcases h.frame with hsame | ⟨hd, pre, a, post, -, hslots, hfree, -⟩
  · -- the ids of the requests are different, those of the filled table are not
    have hnodup := hr.nodup
    unfold Requests.ids at hnodup
    rw [← show Table.fill blynkMaxAwaiting Awaiting.nines = r.awaiting from hsame] at hnodup
    exact absurd hnodup (by decide)
  · refine hfull a ?_ hfree
    rw [hslots]
    exact List.mem_append_right _ List.mem_cons_self

theorem allocated_iff {r : Requests} (deadline : Nat) (handler : Option ResponseHandler)
    (data req : Nat) (hr : r.Sound) :
    Allocated r deadline handler data req (getId r deadline handler data req).1
        (getId r deadline handler data req).2
      ↔ r.id ≠ 0xffff := by
  constructor
  · intro h hwrap
    rw [getId_wrap hwrap] at h
    exact not_allocated_wrap hr h
  · intro hcount
    rcases getId_cases deadline handler data req hcount with
      ⟨-, hid⟩ | ⟨hd, rfl, hfull, hid⟩
        | ⟨hd, pre, a, post, awaiting, rfl, hslots, hfree, hnew, hid⟩
    · rw [hid]
      exact ⟨fun _ a ha hlive => hr.fresh ha hlive, Or.inl rfl, fun hzero => absurd hzero hr.pos⟩
    · rw [hid]
      exact ⟨fun hne => absurd rfl hne, Or.inl rfl, fun _ => ⟨by simp, hfull⟩⟩
    · rw [hid]
      exact ⟨fun _ a ha hlive => hr.fresh ha hlive,
        Or.inr ⟨hd, pre, a, post, rfl, hslots, hfree, hnew⟩, fun hzero => absurd hzero hr.pos⟩

theorem Connection.allocates_iff {c : Connection} (hc : c.dropped = false → c.requests.Sound)
    (op : TableOp) : c.Allocates op ↔ c.Counts op := by
  unfold Connection.Allocates Connection.Counts
  refine forall_congr' fun hlive => ?_
  refine forall₄_congr fun deadline handler data req => forall_congr' fun _ => ?_
  exact allocated_iff deadline handler data req (hc hlive)

theorem Connection.sound_step {c : Connection} (hc : c.dropped = false → c.requests.Sound)
    {op : TableOp} (hcount : c.Counts op) (hlive : (c.step op).1.dropped = false) :
    (c.step op).1.requests.Sound := by
  unfold Connection.step at hlive ⊢
  cases hdrop : c.dropped with
  | true =>
    rw [hdrop, if_pos rfl] at hlive
    exact absurd hlive (by rw [hdrop]; decide)
  | false =>
    rw [if_neg (by decide)]
    cases op with
    | request deadline handler data req =>
      exact (hc hdrop).getId (hcount hdrop deadline handler data req rfl)
    | response id => exact (hc hdrop).answer id
    | timer i now => exact (hc hdrop).expire i now

/-- **Message ids over a connection.** In a run of any length `get_id` does what it should at
every call, exactly if no call finds the counter used up. -/
theorem allocated_iff_run (ops : List TableOp) :
    AllSteps Connection.step Connection.Allocates .start ops
      ↔ AllSteps Connection.step Connection.Counts .start ops := by
  refine allSteps_iff_of_inv (I := fun c : Connection => c.dropped = false → c.requests.Sound)
    (fun c op hc h => ?_) (fun c op hc => c.allocates_iff hc op) fun _ => Requests.sound_reset
  exact c.sound_step hc ((c.allocates_iff hc op).mp h)

/-! ## The end of the counter -/

/-- `n` messages without a handler. Induction on `n`, which is the counter. -/
theorem run_requests {n : Nat} (hn : n < 65535) :
    (run Connection.step .start (List.replicate n (.request 0 none 0 0))).1
      = { requests := { Requests.reset with id := UInt16.ofNat (n + 1) }, dropped := false } := by
  induction n with
  | zero => rfl
  | succ n ih =>
    have hid : (UInt16.ofNat (n + 1)).toNat = n + 1 :=
      UInt16.toNat_ofNat_of_lt' (by unfold UInt16.size; omega)
    have hcount : UInt16.ofNat (n + 1) ≠ 0xffff := by
      intro heq
      rw [heq] at hid
      exact absurd hid (by simp; omega)
    have hpos : UInt16.ofNat (n + 1) ≠ 0 := by
      intro heq
      rw [heq] at hid
      exact absurd hid (by simp)
    rw [List.replicate_succ', run_append, ih (by omega)]
    show (Connection.step _ _).1 = _
    simp only [Connection.step, getId, if_neg hcount, Bool.false_eq_true, if_false]
    rw [UInt16.ofNat_add (n + 1) 1, beq_eq_false_iff_ne.mpr hpos]
    rfl

/-- The 65535th message of a connection gets no id, although it asks for no slot. -/
theorem last_message_without_id :
    ¬ AllSteps Connection.step Connection.Allocates .start
        (List.replicate 65535 (.request 0 none 0 0)) := by
  intro h
  rw [show (65535 : Nat) = 65534 + 1 from rfl, List.replicate_succ', allSteps_append] at h
  rw [run_requests (by decide)] at h
  have hlast := h.2.1 rfl 0 none 0 0 rfl
  rw [getId_wrap (by decide)] at hlast
  exact (hlast.full rfl).1 rfl

end ControlFan.Blynk
