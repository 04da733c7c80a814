import ControlFan.Mqtt.Ledger

/-!
# Mqtt — what becomes of a stored message

A message that is stored in the outbox stays there until the broker has acknowledged it, until it
is 30 seconds old, or, at QoS 0, until it has been written. This module proves it of every run:

* **`run_conserved`** — what was stored is still there or has left, as often as it was stored, and
  whatever has left had a reason to;
* **`run_accounted`** — the count of pending messages, which `is_valid_mqtt_msg` asks first, never
  hides a message of the outbox.
-/

namespace ControlFan.Mqtt

open Machine Relation Queue

variable {o : Origin} {l l' : Ledger}

/-- What every act keeps, a chain of acts keeps. -/
theorem Acts.inv {I : Ledger → Prop} (hact : ∀ l l', Act o l l' → I l → I l') (h : Acts o l l')
    (hl : I l) : I l' := by
  induction h with
  | refl => exact hl
  | tail _ hlast ih => exact hact _ _ hlast ih

/-- What holds of an empty ledger and is kept by every act, holds behind every run. -/
theorem run_ledger_inv {I : Ledger → Prop} (hact : ∀ o l l', Act o l l' → I l → I l')
    (hempty : I ⟨[], 0, []⟩) (config : Config) (now : Int) (inputs : List Input) :
    I (config.run now inputs).ledger :=
  run_inv (I := fun s => I s.ledger) (C := fun _ _ => True)
    (fun s i hI _ => Acts.inv (hact _) (acts_step s i) hI) hempty
    (AllSteps.of_forall (fun _ _ => trivial) _ inputs)

/-! ## Nothing is lost -/

def queuedItems (log : List Event) : List Item :=
  log.filterMap fun | .queued item => some item | _ => none

def droppedItems (log : List Event) : List Item :=
  log.filterMap fun | .dropped item _ => some item | _ => none

theorem queuedItems_plain {e : Event} (he : e.isPlain = true) (log : List Event) :
    queuedItems (e :: log) = queuedItems log ∧ droppedItems (e :: log) = droppedItems log := by
  cases e with
  | opened | closed | wrote _ _ | dispatched _ | data _ => exact ⟨rfl, rfl⟩
  | received _ _ | queued _ | resent _ | dropped _ _ => exact Bool.noConfusion he

theorem items_logDropped (items : List Item) (why : Leave) (log : List Event) :
    queuedItems (logDropped items why log) = queuedItems log
      ∧ droppedItems (logDropped items why log) = items.reverse ++ droppedItems log := by
  unfold logDropped queuedItems droppedItems
  rw [List.filterMap_append, List.filterMap_append, List.filterMap_reverse, List.filterMap_reverse,
    List.filterMap_map, List.filterMap_map]
  have hnone : items.filterMap (fun _ => (none : Option Item)) = [] :=
    List.filterMap_eq_nil_iff.mpr fun _ _ => rfl
  have hsome : items.filterMap some = items := List.filterMap_some
  exact ⟨congrArg (·.reverse ++ _) hnone, congrArg (·.reverse ++ _) hsome⟩

/-- What was stored is still there, or it has left. -/
def Ledger.Conserved (l : Ledger) : Prop :=
  ((queuedItems l.log).map Item.key).Perm
    ((droppedItems l.log).map Item.key ++ l.outbox.map Item.key)

/-- What leaves goes from the one list to the other. -/
theorem Ledger.Conserved.leave (h : l.Conserved) (items : List Item) {outbox : Outbox}
    {log : List Event} {count : Int} (hperm : l.outbox.Perm (items ++ outbox))
    (hqueued : queuedItems log = queuedItems l.log)
    (hdropped : (droppedItems log).Perm (items ++ droppedItems l.log)) :
    (Ledger.mk outbox count log).Conserved := by
  have hstay := (hperm.map Item.key).append_left ((droppedItems l.log).map Item.key)
  have hleave := (hdropped.map Item.key).append_right (outbox.map Item.key)
  have hswap := ((show (droppedItems l.log ++ items).Perm (items ++ droppedItems l.log) from
    List.perm_append_comm).map Item.key).append_right (outbox.map Item.key)
  simp only [List.map_append, List.append_assoc] at hstay hleave hswap
  unfold Ledger.Conserved
  dsimp only
  rw [hqueued]
  exact ((h.trans hstay).trans hswap).trans hleave.symm

theorem conserved_act (h : Act o l l') (hl : l.Conserved) : l'.Conserved := by
  cases h with
  | plain e he =>
    obtain ⟨hqueued, hdropped⟩ := queuedItems_plain he l.log
    unfold Ledger.Conserved
    dsimp only
    rw [hqueued, hdropped]
    exact hl
  | received type id => exact hl
  | acked ack msgType id item outbox _ _ hdelete =>
    exact hl.leave [item] (takeFirst_perm hdelete) rfl (List.Perm.refl _)
  | pubrec id =>
    unfold Ledger.Conserved
    dsimp only
    rw [map_key_setPending]
    exact hl
  | confirmed id | transmitted id =>
    unfold Ledger.Conserved
    dsimp only
    rw [map_key_setPending]
    exact hl
  | ticked id tick =>
    unfold Ledger.Conserved
    dsimp only
    rw [map_key_setTick]
    exact hl
  | duplicate pending =>
    unfold Ledger.Conserved
    dsimp only
    rw [map_key_setDup]
    exact hl
  | queued item =>
    show (item.key :: (queuedItems l.log).map Item.key).Perm
      ((droppedItems l.log).map Item.key ++ (l.outbox ++ [item]).map Item.key)
    rw [List.map_append, ← List.append_assoc]
    exact (List.Perm.cons item.key hl).trans (List.perm_append_singleton item.key _).symm
  | lost => exact hl
  | resent item => exact hl
  | expired now =>
    obtain ⟨hqueued, hdropped⟩ := items_logDropped
      (outboxDeleteExpired l.outbox now outboxExpiredTimeoutMs).1 (.expired now) l.log
    refine hl.leave _ (deleteExpired_perm l.outbox now _) hqueued ?_
    rw [hdropped]
    exact (List.reverse_perm _).append_right _
  | sent item outbox ret _ _ _ hdelete =>
    exact hl.leave [item] (takeFirst_perm hdelete) rfl (List.Perm.refl _)
  | cleaned =>
    obtain ⟨hqueued, hdropped⟩ := items_logDropped
      (outboxCleanup l.outbox outboxMaxSize).1 .confirmed l.log
    refine hl.leave _ (cleanupLoop_spec _ _ l.outbox).1 hqueued ?_
    rw [hdropped]
    exact (List.reverse_perm _).append_right _

/-! ## Whatever leaves has a reason -/

/-- The broker has acknowledged it, it is 30 seconds old, or it was written and is of QoS 0. -/
def Justified (es : List Event) : Event → Prop
  | .dropped item .acked => ∃ ack, Acks ack item.msgType ∧ es.head? = some (.received ack item.msgId)
  | .dropped item (.expired now) => outboxExpiredTimeoutMs < now - item.tick
  | .dropped item .sent =>
    (item.msgType = mqttMsgTypePublish ∧ item.msgQos = 0)
      ∧ ∃ ret, 0 < ret ∧ es.head? = some (.wrote item.buffer ret)
  | .dropped item .confirmed => ∃ ack, Acks ack mqttMsgTypePublish ∧ .received ack item.msgId ∈ es
  | _ => True

/-- What the log says about an item of the outbox: whoever has marked it as confirmed had an
acknowledgement with its id. -/
def Item.Backed (log : List Event) (item : Item) : Prop :=
  item.msgType < 16
    ∧ (item.pending = .confirmed →
      ∃ ack, Acks ack mqttMsgTypePublish ∧ .received ack item.msgId ∈ log)

theorem Item.Backed.mono {log : List Event} {item : Item} (h : item.Backed log)
    {log' : List Event} (hlog : log ⊆ log') : item.Backed log' := by
  refine ⟨h.1, fun hconfirmed => ?_⟩
  obtain ⟨ack, hack, hmem⟩ := h.2 hconfirmed
  exact ⟨ack, hack, hlog hmem⟩

structure Ledger.Reasoned (l : Ledger) : Prop where
  explained : Explained Justified l.log
  backed : ∀ item ∈ l.outbox, item.Backed l.log

theorem Ledger.Reasoned.events (h : l.Reasoned) (new : List Event)
    (hnew : ∀ e ∈ new, ∀ pre, Justified (pre ++ l.log) e) {outbox : Outbox}
    (houtbox : ∀ item ∈ outbox, item ∈ l.outbox) (count : Int) :
    (Ledger.mk outbox count (new ++ l.log)).Reasoned where
  explained := h.explained.append_of_below hnew
  backed item hitem := (h.backed item (houtbox item hitem)).mono (List.subset_append_right new l.log)

theorem Ledger.Reasoned.marks (h : l.Reasoned) {outbox : Outbox}
    (houtbox : ∀ item ∈ outbox, item.Backed l.log) (count : Int) :
    (Ledger.mk outbox count l.log).Reasoned where
  explained := h.explained
  backed := houtbox

theorem justified_plain {e : Event} (he : e.isPlain = true) (es : List Event) : Justified es e := by
  cases e with
  | opened | closed | wrote _ _ | dispatched _ | data _ => trivial
  | received _ _ | queued _ | resent _ | dropped _ _ => exact Bool.noConfusion he

theorem mem_of_perm_append (items : Outbox) {outbox outbox' : Outbox}
    (h : outbox.Perm (items ++ outbox')) :
    (∀ item ∈ items, item ∈ outbox) ∧ ∀ item ∈ outbox', item ∈ outbox :=
  ⟨fun _ hitem => h.mem_iff.mpr (List.mem_append_left _ hitem),
    fun _ hitem => h.mem_iff.mpr (List.mem_append_right _ hitem)⟩

theorem reasoned_act (h : Act o l l') (hl : l.Reasoned) : l'.Reasoned := by
  cases h with
  | plain e he =>
    exact hl.events [e] (by simpa using fun pre => justified_plain he _) (fun _ h => h) _
  | received type id =>
    exact hl.events [.received type id] (by simp [Justified]) (fun _ h => h) _
  | acked ack msgType id item outbox _ hack hdelete =>
    obtain ⟨hitem, hrest⟩ := mem_of_perm_append [item] (takeFirst_perm hdelete)
    obtain ⟨hfound, -⟩ := takeFirst_eq_some hdelete
    have htype : item.msgType < 16 := (hl.backed item (hitem item (by simp))).1
    simp only [Bool.and_eq_true, beq_iff_eq] at hfound
    have hmatch : item.msgType = msgType := by omega
    refine ⟨⟨⟨ack, hmatch ▸ hack, ?_⟩, trivial, hl.explained⟩, fun it hit => ?_⟩
    · rw [hfound.1]
      rfl
    · exact (hl.backed it (hrest it hit)).mono (List.subset_append_right [_, _] l.log)
  | pubrec id =>
    refine ⟨⟨trivial, hl.explained⟩, forall_updateFirst (fun it hit => ?_) fun it hit _ => ?_⟩
    · exact (hl.backed it hit).mono (List.subset_cons_self _ _)
    · exact ⟨(hl.backed it hit).1, fun h => Pending.noConfusion h⟩
  | confirmed id ack hack hlog =>
    refine hl.marks (forall_updateFirst hl.backed fun it hit hid => ?_) _
    rw [beq_iff_eq] at hid
    exact ⟨(hl.backed it hit).1, fun _ => ⟨ack, hack, hid ▸ hlog⟩⟩
  | queued item _ _ hpending htype =>
    refine ⟨⟨trivial, hl.explained⟩, fun it hit => ?_⟩
    rcases List.mem_append.mp hit with hold | hnew
    · exact (hl.backed it hold).mono (List.subset_cons_self _ _)
    · obtain rfl := List.mem_singleton.mp hnew
      exact ⟨htype, fun h => absurd (hpending.symm.trans h) (by decide)⟩
  | lost => exact hl.marks hl.backed _
  | transmitted id =>
    refine hl.marks (forall_updateFirst hl.backed ?_) _
    exact fun it hit _ => ⟨(hl.backed it hit).1, fun h => Pending.noConfusion h⟩
  | ticked id tick =>
    refine hl.marks (forall_updateFirst hl.backed ?_) _
    exact fun it hit _ => hl.backed it hit
  | duplicate pending =>
    refine hl.marks (forall_updateFirst hl.backed ?_) _
    exact fun it hit _ => hl.backed it hit
  | resent item =>
    exact hl.events [.resent item] (by simp [Justified]) (fun _ h => h) _
  | expired now =>
    refine hl.events _ (fun e he pre => ?_)
      (mem_of_perm_append _ (deleteExpired_perm l.outbox now outboxExpiredTimeoutMs)).2 _
    obtain ⟨item, hitem, rfl⟩ := List.mem_map.mp (List.mem_reverse.mp he)
    exact expired_of_deleteExpired hitem
  | sent item outbox ret hret hpublish hlog hdelete =>
    refine ⟨⟨⟨hpublish, ret, hret, hlog⟩, hl.explained⟩, fun it hit => ?_⟩
    have hmem := (mem_of_perm_append [item] (takeFirst_perm hdelete)).2 it hit
    exact (hl.backed it hmem).mono (List.subset_cons_self _ _)
  | cleaned =>
    obtain ⟨hperm, hconfirmed⟩ := cleanupLoop_spec outboxMaxSize l.outbox.length l.outbox
    refine hl.events _ (fun e he pre => ?_) (mem_of_perm_append _ hperm).2 _
    obtain ⟨item, hitem, rfl⟩ := List.mem_map.mp (List.mem_reverse.mp he)
    obtain ⟨hmem, hmark⟩ := hconfirmed item hitem
    obtain ⟨ack, hack, hlog⟩ := (hl.backed item hmem).2 hmark
    exact ⟨ack, hack, List.mem_append_right _ hlog⟩

/-- **No message is lost.** In every run, what was stored in the outbox is still there or has
left it, each message as often as it was stored. Whatever has left was acknowledged by the packet
that was received just before, or is 30 seconds old, or was written just before and is of QoS 0,
or was confirmed by an acknowledgement with its id. -/
theorem run_conserved (config : Config) (now : Int) (inputs : List Input) :
    (config.run now inputs).ledger.Conserved
      ∧ Explained Justified (config.run now inputs).log := by
  have hreasoned : (config.run now inputs).ledger.Reasoned :=
    run_ledger_inv (fun _ _ _ => reasoned_act) ⟨trivial, fun _ h => absurd h List.not_mem_nil⟩
      config now inputs
  exact ⟨run_ledger_inv (fun _ _ _ => conserved_act) (List.Perm.refl _) config now inputs,
    hreasoned.explained⟩

/-! ## The count of pending messages -/

/-- The outbox is not longer than the count says. The count may be higher: a message that found no
memory was counted, and so was one of QoS 0 that was sent or cleaned away. -/
def Ledger.Accounted (l : Ledger) : Prop := l.outbox.length ≤ l.count

/-- What a step can make of the count: it goes up by one for a message of its own. -/
def Origin.most (o : Origin) : Int := if o.drawn.isSome then o.count + 1 else o.count

/-- As long as an `int` can hold it, the count is what it should be. -/
theorem accounted_act (h : Act o l l') (hroom : o.most < 2 ^ 31)
    (hl : l.Accounted ∧ l.count ≤ o.most) : l'.Accounted ∧ l'.count ≤ o.most := by
  obtain ⟨hlong, hmost⟩ := hl
  unfold Ledger.Accounted at hlong ⊢
  have hlength (items : Outbox) {outbox outbox' : Outbox} (hperm : outbox.Perm (items ++ outbox')) :
      outbox.length = items.length + outbox'.length :=
    hperm.length_eq.trans List.length_append
  have hmarks {p : Item → Bool} {f : Item → Item} (outbox : Outbox) :
      (updateFirst p f outbox).length = outbox.length := by
    simpa using congrArg List.length (map_updateFirst (p := p) (f := f) (g := fun _ => ()) (fun _ => rfl) outbox)
  have hrequested (hrequest : o.drawn.isSome = true ∧ l.count = o.count) :
      wrap32 (l.count + 1) = l.count + 1 ∧ l.count + 1 ≤ o.most := by
    have hone : o.most = l.count + 1 := by rw [Origin.most, if_pos hrequest.1, hrequest.2]
    exact ⟨wrap32_eq (by omega) (by omega), hone.ge⟩
  cases h with
  | plain e he => exact ⟨hlong, hmost⟩
  | received type id => exact ⟨hlong, hmost⟩
  | acked ack msgType id item outbox _ _ hdelete =>
    have := hlength [item] (takeFirst_perm hdelete)
    simp only [List.length_singleton] at this
    dsimp only
    rw [wrap32_eq (by omega) (by omega)]
    omega
  | pubrec id | confirmed id | transmitted id | ticked id tick | duplicate pending =>
    exact ⟨(congrArg Nat.cast (hmarks _)).trans_le hlong, hmost⟩
  | queued item _ hrequest =>
    obtain ⟨hwrap, hone⟩ := hrequested hrequest
    dsimp only [outboxEnqueue]
    rw [List.length_append, List.length_singleton, hwrap]
    omega
  | lost hrequest =>
    obtain ⟨hwrap, hone⟩ := hrequested hrequest
    dsimp only
    rw [hwrap]
    omega
  | resent item => exact ⟨hlong, hmost⟩
  | expired now =>
    have := hlength _ (deleteExpired_perm l.outbox now outboxExpiredTimeoutMs)
    dsimp only
    rw [wrap32_eq (by omega) (by omega)]
    omega
  | sent item outbox ret _ _ _ hdelete =>
    have := hlength [item] (takeFirst_perm hdelete)
    dsimp only
    omega
  | cleaned =>
    have := hlength _ (cleanupLoop_spec outboxMaxSize l.outbox.length l.outbox).1
    unfold outboxCleanup
    dsimp only
    omega

/-- The step keeps the count in the range of an `int`. -/
def Input.Counts (s : Session) (i : Input) : Prop := (s.origin i).most < 2 ^ 31

theorem count_le_most (s : Session) (i : Input) : s.pendingMsgCount ≤ (s.origin i).most := by
  unfold Origin.most
  split_ifs
  · exact Int.le_of_lt (Int.lt_succ s.pendingMsgCount)
  · exact Int.le_refl s.pendingMsgCount

theorem accounted_step {s : Session} {i : Input} (hs : s.ledger.Accounted) (hi : i.Counts s) :
    (s.step i).ledger.Accounted ∧ (s.step i).pendingMsgCount ≤ (s.origin i).most :=
  Acts.inv (I := fun l => l.Accounted ∧ l.count ≤ (s.origin i).most)
    (fun _ _ hact hl => accounted_act hact hi hl) (acts_step s i) ⟨hs, count_le_most s i⟩

/-- The calls that the client counts: each draws an id, also for a message of QoS 0. -/
def requests (inputs : List Input) : Nat := inputs.countP fun i => i.drawn.isSome

/-- With fewer than `2 ^ 31` of them the count never overflows. Induction on the inputs. -/
theorem counts_run {s : Session} (hs : s.ledger.Accounted) {k : Nat} (hk : s.pendingMsgCount ≤ k)
    {inputs : List Input} (hfew : k + requests inputs < 2 ^ 31) :
    AllSteps (silent Session.step) (fun s i => i.Counts s) s inputs := by
  induction inputs generalizing s k with
  | nil => trivial
  | cons i inputs ih =>
    have hrequests : requests (i :: inputs) = requests inputs + if i.drawn.isSome then 1 else 0 :=
      List.countP_cons
    have hmost : (s.origin i).most ≤ (k + if i.drawn.isSome then 1 else 0 : Nat) := by
      unfold Origin.most Session.origin
      dsimp only
      split_ifs <;> omega
    have hi : i.Counts s := by
      unfold Input.Counts
      omega
    obtain ⟨hstep, hcount⟩ := accounted_step hs hi
    exact ⟨hi, ih hstep (hcount.trans hmost) (by omega)⟩

theorem accounted_init (config : Config) (now : Int) :
    (Session.init config now).ledger.Accounted := le_rfl

theorem counts_init (config : Config) (now : Int) {inputs : List Input}
    (hfew : requests inputs < 2 ^ 31) :
    AllSteps (silent Session.step) (fun s i => i.Counts s) (.init config now) inputs :=
  counts_run (accounted_init config now) (k := 0) le_rfl (by omega)

/-- **An acknowledgement is never overlooked.** In every run with fewer than `2 ^ 31` requests,
`is_valid_mqtt_msg` accepts an acknowledgement if and only if a message with its type and id is
stored. -/
theorem run_accounted (config : Config) (now : Int) {inputs : List Input}
    (hfew : requests inputs < 2 ^ 31) (msgType : Nat) (msgId : UInt16) :
    ((config.run now inputs).isValidMqttMsg msgType msgId).2 = true
      ↔ ∃ item ∈ (config.run now inputs).outbox, item.msgId = msgId ∧ item.msgType = msgType := by
  have haccounted : (config.run now inputs).ledger.Accounted :=
    run_inv (I := fun s => s.ledger.Accounted) (fun s i hs hi => (accounted_step hs hi).1)
      (accounted_init config now) (counts_init config now hfew)
  have hreasoned : (config.run now inputs).ledger.Reasoned :=
    run_ledger_inv (fun _ _ _ => reasoned_act) ⟨trivial, fun _ h => absurd h List.not_mem_nil⟩
      config now inputs
  generalize config.run now inputs = s at haccounted hreasoned ⊢
  have htype : ∀ item ∈ s.outbox, item.msgType % 256 = item.msgType := fun item hitem =>
    Nat.mod_eq_of_lt ((hreasoned.backed item hitem).1.trans (by decide))
  rcases isValidMqttMsg_cases s msgType msgId with ⟨heq, hnone⟩ | ⟨item, outbox, hdelete, -, heq⟩
  · rw [heq]
    refine ⟨fun h => absurd h Bool.false_ne_true, ?_⟩
    rintro ⟨item, hitem, hid, hmatch⟩
    rcases hnone with hcount | hdelete
    · -- a count of zero leaves no room for the message
      have hlength : (s.outbox.length : Int) ≤ s.pendingMsgCount := haccounted
      have := List.length_pos_of_mem hitem
      omega
    · have hskip := takeFirst_eq_none hdelete item hitem
      rw [htype item hitem, hid, hmatch] at hskip
      exact absurd hskip (by simp)
  · rw [heq]
    refine ⟨fun _ => ⟨item, (takeFirst_perm hdelete).mem_iff.mpr List.mem_cons_self, ?_⟩, fun _ => rfl⟩
    obtain ⟨hfound, -⟩ := takeFirst_eq_some hdelete
    rw [htype item ((takeFirst_perm hdelete).mem_iff.mpr List.mem_cons_self)] at hfound
    simpa using hfound

/-- A client that stores a message of QoS 1, before it is connected. -/
def storedInputs : List Input :=
  [.start, .publish { topic := [116], data := some [1, 2], len := 2, qos := 1, id := sampleId } {}]

theorem run_accounted_stored :
    ((smallConfig.run 0 storedInputs).isValidMqttMsg mqttMsgTypePublish 5).2 = true
      ∧ ((smallConfig.run 0 storedInputs).isValidMqttMsg mqttMsgTypePublish 6).2 = false := by
  have hfew : requests storedInputs < 2 ^ 31 := by decide
  constructor
  · refine (run_accounted smallConfig 0 hfew _ _).mpr ?_
    decide +kernel
  · rw [← Bool.not_eq_true, run_accounted smallConfig 0 hfew]
    decide +kernel

end ControlFan.Mqtt
