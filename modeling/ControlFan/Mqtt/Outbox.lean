import ControlFan.Lib.Queue
import ControlFan.Mqtt.Encode

/-!
# Mqtt — the outbox (`esp-mqtt/lib/mqtt_outbox.c`)

The outbox holds the messages that wait for a connection or for an acknowledgement. It is a
list that grows at its end; every operation looks for the first item with an id or a mark, or
walks over all items.
-/

namespace ControlFan.Mqtt

open Queue

/-- `pending_state_t`. -/
inductive Pending where
  | queued
  | transmitted
  | acknowledged
  | confirmed
  deriving DecidableEq, Repr

/-- `outbox_item_t`. -/
structure Item where
  buffer : List UInt8
  msgId : UInt16
  msgType : Nat
  msgQos : Nat
  tick : Int
  pending : Pending := .queued
  deriving DecidableEq, Repr

abbrev Outbox := List Item

def outboxEnqueue (outbox : Outbox) (item : Item) : Outbox := outbox ++ [item]

/-- `outbox_dequeue`: the first item with the mark, which stays in the outbox. -/
def outboxDequeue (outbox : Outbox) (pending : Pending) : Option Item :=
  outbox.find? (·.pending == pending)

/-- `outbox_delete`: the item with the id and the type, and the outbox without it; `none` for
`ESP_FAIL`. -/
def outboxDelete (outbox : Outbox) (msgId : UInt16) (msgType : Nat) : Option (Item × Outbox) :=
  takeFirst (fun item => item.msgId == msgId && item.msgType % 256 == msgType) outbox

/-- `outbox_delete_item` on what `outbox_dequeue` has returned. -/
def outboxDeleteItem (outbox : Outbox) (pending : Pending) : Option (Item × Outbox) :=
  takeFirst (·.pending == pending) outbox

def outboxSetPending (outbox : Outbox) (msgId : UInt16) (pending : Pending) : Outbox :=
  updateFirst (·.msgId == msgId) (fun item => { item with pending := pending }) outbox

def outboxSetTick (outbox : Outbox) (msgId : UInt16) (tick : Int) : Outbox :=
  updateFirst (·.msgId == msgId) (fun item => { item with tick := tick }) outbox

/-- `mqtt_set_dup` on the buffer of what `outbox_dequeue` has returned. -/
def outboxSetDup (outbox : Outbox) (pending : Pending) : Outbox :=
  updateFirst (·.pending == pending) (fun item => { item with buffer := mqttSetDup item.buffer })
    outbox

def Item.expired (currentTick timeout : Int) (item : Item) : Bool :=
  timeout < currentTick - item.tick

/-- `outbox_delete_expired`: the items that leave, and those that stay. -/
def outboxDeleteExpired (outbox : Outbox) (currentTick timeout : Int) : List Item × Outbox :=
  outbox.partition (Item.expired currentTick timeout)

def outboxGetSize (outbox : Outbox) : Nat := (outbox.map (·.buffer.length)).sum

/-- The `while` loop of `outbox_cleanup`, with the items it deletes. Each round takes an item
out, so that as many rounds as there are items are enough. -/
def outboxCleanupLoop (maxSize : Nat) : (rounds : Nat) → Outbox → List Item × Outbox
  | 0, outbox => ([], outbox)
  | rounds + 1, outbox =>
    if outboxGetSize outbox > maxSize then
      match outboxDeleteItem outbox .confirmed with
      | none => ([], outbox)
      | some (item, rest) =>
        let (items, rest) := outboxCleanupLoop maxSize rounds rest
        (item :: items, rest)
    else ([], outbox)

def outboxCleanup (outbox : Outbox) (maxSize : Nat) : List Item × Outbox :=
  outboxCleanupLoop maxSize outbox.length outbox

/-! ## What an item keeps -/

/-- What no operation changes: everything but the mark, the tick and the duplicate flag. -/
def Item.key (item : Item) : UInt16 × Nat × Nat × List UInt8 :=
  (item.msgId, item.msgType, item.msgQos, item.buffer.tail)

theorem tail_mqttSetDup (buffer : List UInt8) : (mqttSetDup buffer).tail = buffer.tail := by
  cases buffer <;> rfl

theorem map_key_setPending (outbox : Outbox) (msgId : UInt16) (pending : Pending) :
    (outboxSetPending outbox msgId pending).map Item.key = outbox.map Item.key :=
  map_updateFirst (f := fun item => { item with pending := pending }) (fun _ => rfl) outbox

theorem map_key_setTick (outbox : Outbox) (msgId : UInt16) (tick : Int) :
    (outboxSetTick outbox msgId tick).map Item.key = outbox.map Item.key :=
  map_updateFirst (f := fun item => { item with tick := tick }) (fun _ => rfl) outbox

theorem map_key_setDup (outbox : Outbox) (pending : Pending) :
    (outboxSetDup outbox pending).map Item.key = outbox.map Item.key := by
  refine map_updateFirst (fun item => ?_) outbox
  show (item.msgId, item.msgType, item.msgQos, (mqttSetDup item.buffer).tail) = _
  rw [tail_mqttSetDup]
  rfl

/-! ## What leaves -/

theorem deleteExpired_perm (outbox : Outbox) (currentTick timeout : Int) :
    outbox.Perm ((outboxDeleteExpired outbox currentTick timeout).1
      ++ (outboxDeleteExpired outbox currentTick timeout).2) := by
  unfold outboxDeleteExpired
  rw [List.partition_eq_filter_filter]
  exact (List.filter_append_perm _ outbox).symm

theorem expired_of_deleteExpired {outbox : Outbox} {currentTick timeout : Int} {item : Item}
    (h : item ∈ (outboxDeleteExpired outbox currentTick timeout).1) :
    timeout < currentTick - item.tick := by
  unfold outboxDeleteExpired at h
  rw [List.partition_eq_filter_filter] at h
  exact of_decide_eq_true (List.mem_filter.mp h).2

/-- The loop deletes items that are confirmed, and no others. Induction on the rounds. -/
theorem cleanupLoop_spec (maxSize rounds : Nat) (outbox : Outbox) :
    outbox.Perm ((outboxCleanupLoop maxSize rounds outbox).1
        ++ (outboxCleanupLoop maxSize rounds outbox).2)
      ∧ ∀ item ∈ (outboxCleanupLoop maxSize rounds outbox).1,
        item ∈ outbox ∧ item.pending = .confirmed := by
  induction rounds generalizing outbox with
  | zero => exact ⟨List.Perm.refl _, fun _ h => absurd h List.not_mem_nil⟩
  | succ rounds ih =>
    rw [outboxCleanupLoop]
    split_ifs with hsize
    · cases hfirst : outboxDeleteItem outbox .confirmed with
      | none => exact ⟨List.Perm.refl _, fun _ h => absurd h List.not_mem_nil⟩
      | some taken =>
        obtain ⟨item, rest⟩ := taken
        have hperm := takeFirst_perm hfirst
        obtain ⟨hconfirmed, -⟩ := takeFirst_eq_some hfirst
        obtain ⟨hrest, hitems⟩ := ih rest
        refine ⟨hperm.trans (hrest.cons item), fun it hit => ?_⟩
        rcases List.mem_cons.mp hit with rfl | hit
        · exact ⟨hperm.mem_iff.mpr List.mem_cons_self, by simpa using hconfirmed⟩
        · obtain ⟨hmem, hmark⟩ := hitems it hit
          exact ⟨hperm.mem_iff.mpr (List.mem_cons_of_mem _ hmem), hmark⟩
    · exact ⟨List.Perm.refl _, fun _ h => absurd h List.not_mem_nil⟩

/-- What stays keeps its order. -/
theorem deleteExpired_sublist (outbox : Outbox) (currentTick timeout : Int) :
    (outboxDeleteExpired outbox currentTick timeout).2.Sublist outbox := by
  unfold outboxDeleteExpired
  rw [List.partition_eq_filter_filter]
  exact List.filter_sublist

theorem cleanupLoop_sublist (maxSize rounds : Nat) (outbox : Outbox) :
    (outboxCleanupLoop maxSize rounds outbox).2.Sublist outbox := by
  induction rounds generalizing outbox with
  | zero => exact List.Sublist.refl _
  | succ rounds ih =>
    rw [outboxCleanupLoop]
    split_ifs
    · cases hfirst : outboxDeleteItem outbox .confirmed with
      | none => exact List.Sublist.refl _
      | some taken => exact (ih taken.2).trans (takeFirst_sublist hfirst)
    · exact List.Sublist.refl _

end ControlFan.Mqtt
