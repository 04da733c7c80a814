import ControlFan.Mqtt.Delivery
import ControlFan.Mqtt.Wire

/-!
# Mqtt — nothing is sent again behind its acknowledgement

The client sends what it has stored until the broker acknowledges it, and then never again. For a
message of QoS 2 that is the client's half of exactly-once delivery: behind the PUBREC the PUBLISH
is not repeated.

* **`heard`** — what the broker has sent with an id since the message with that id was stored;
* **`run_resent`** — in every run whose message ids are not in use when they are drawn, nothing
  was heard that acknowledges a message when it is sent again.
-/

namespace ControlFan.Mqtt

open Machine Queue

/-! ## What was heard -/

/-- The types of the packets with the id, since the last message with it was stored. -/
def heard (id : UInt16) : List Event → List Nat
  | [] => []
  | .queued item :: es => if item.msgId = id then [] else heard id es
  | .received type id' :: es => if id' = id then type :: heard id es else heard id es
  | _ :: es => heard id es

theorem heard_plain (id : UInt16) {e : Event} (he : e.isPlain = true) (log : List Event) :
    heard id (e :: log) = heard id log := by
  cases e with
  | opened | closed | wrote _ _ | dispatched _ | data _ => rfl
  | received _ _ | queued _ | resent _ | dropped _ _ => exact Bool.noConfusion he

theorem heard_logDropped (id : UInt16) (items : List Item) (why : Leave) (log : List Event) :
    heard id (logDropped items why log) = heard id log := by
  unfold logDropped
  rw [← List.map_reverse]
  induction items.reverse with
  | nil => rfl
  | cons item items ih => exact ih

/-- Nothing that was heard acknowledges the item, and no PUBREC was if the item may be sent. -/
def Item.Open (log : List Event) (item : Item) : Prop :=
  (∀ type ∈ heard item.msgId log, ¬ Acks type item.msgType)
    ∧ (item.pending = .queued ∨ item.pending = .transmitted → 5 ∉ heard item.msgId log)

/-- A message that is sent again has not been acknowledged. -/
def Unacknowledged (es : List Event) : Event → Prop
  | .resent item => item.msgId ≠ 0 →
    ∀ type ∈ heard item.msgId es, ¬ Acks type item.msgType ∧ type ≠ 5
  | _ => True

/-- No two messages of the outbox have one id, but for those of QoS 0. -/
def Unique (outbox : Outbox) : Prop :=
  outbox.Pairwise fun a b => a.msgId = b.msgId → a.msgId = 0

structure Ledger.Open (l : Ledger) : Prop where
  unique : Unique l.outbox
  live : ∀ item ∈ l.outbox, item.msgId ≠ 0 → item.Open l.log
  zero : ∀ item ∈ l.outbox, item.msgType = mqttMsgTypePublish ∧ item.msgQos = 0 → item.msgId = 0
  sent : ∀ item, .dropped item .sent ∈ l.log → item.msgId = 0
  resent : Explained Unacknowledged l.log

/-- No PUBREC was heard for the id that the step has drawn. -/
def Ledger.Drew (o : Origin) (l : Ledger) : Prop :=
  ∀ item ∈ l.outbox, o.drawn = some item.msgId → 5 ∉ heard item.msgId l.log

variable {o : Origin} {l l' : Ledger}

theorem Unique.rest {pre post : Outbox} {item : Item} (h : Unique (pre ++ item :: post)) :
    ∀ it ∈ pre ++ post, it.msgId = item.msgId → it.msgId = 0 := by
  intro it hit heq
  obtain ⟨-, hpost, hcross⟩ := List.pairwise_append.mp h
  rcases List.mem_append.mp hit with hpre | hpost'
  · exact hcross it hpre item List.mem_cons_self heq
  · exact heq ▸ (List.pairwise_cons.mp hpost).1 it hpost' heq.symm

/-- Items that are changed keep their ids. -/
theorem Unique.update {outbox : Outbox} (h : Unique outbox) {p : Item → Bool} {f : Item → Item}
    (hf : ∀ item, (f item).msgId = item.msgId) : Unique (updateFirst p f outbox) := by
  have hids : (outbox.map (·.msgId)).Pairwise fun a b => a = b → a = 0 := List.pairwise_map.mpr h
  rw [← map_updateFirst (p := p) hf outbox] at hids
  exact List.pairwise_map.mp hids

/-- What leaves the outbox leaves the rest as it is. -/
theorem Ledger.Open.leave (h : l.Open) {outbox : Outbox} {log : List Event} (count : Int)
    (hsub : outbox.Sublist l.outbox) (hheard : ∀ item ∈ outbox, item.msgId ≠ 0 → item.Open log)
    (hsent : ∀ item, .dropped item .sent ∈ log → item.msgId = 0)
    (hresent : Explained Unacknowledged log) : (Ledger.mk outbox count log).Open where
  unique := h.unique.sublist hsub
  live := hheard
  zero item hitem := h.zero item (hsub.subset hitem)
  sent := hsent
  resent := hresent

/-- A change of marks, ticks and flags. -/
theorem Ledger.Open.update (h : l.Open) {p : Item → Bool} {f : Item → Item}
    (hf : ∀ item, (f item).msgId = item.msgId ∧ (f item).msgType = item.msgType
      ∧ (f item).msgQos = item.msgQos)
    (hpending : ∀ item ∈ l.outbox, p item = true → item.msgId ≠ 0 →
      (f item).pending = .queued ∨ (f item).pending = .transmitted → 5 ∉ heard item.msgId l.log) :
    (Ledger.mk (updateFirst p f l.outbox) l.count l.log).Open where
  unique := h.unique.update fun item => (hf item).1
  live := by
    refine forall_updateFirst h.live fun item hitem hp hid => ?_
    obtain ⟨hmsgId, hmsgType, -⟩ := hf item
    unfold Item.Open
    rw [hmsgId] at hid ⊢
    rw [hmsgType]
    exact ⟨(h.live item hitem hid).1, hpending item hitem hp hid⟩
  zero := by
    refine forall_updateFirst h.zero fun item hitem _ hpublish => ?_
    obtain ⟨hmsgId, hmsgType, hmsgQos⟩ := hf item
    rw [hmsgType, hmsgQos] at hpublish
    rw [hmsgId]
    exact h.zero item hitem hpublish
  sent := h.sent
  resent := h.resent

theorem Item.Open.of_heard {item : Item} {log log' : List Event} (h : item.Open log)
    (hheard : heard item.msgId log' = heard item.msgId log) : item.Open log' := by
  unfold Item.Open
  rw [hheard]
  exact h

theorem heard_received_ne {id id' : UInt16} (h : id' ≠ id) (type : Nat) (log : List Event) :
    heard id (.received type id' :: log) = heard id log := if_neg h

theorem heard_received_self (id : UInt16) (type : Nat) (log : List Event) :
    heard id (.received type id :: log) = type :: heard id log := if_pos rfl

/-- A packet that acknowledges nothing acknowledges no message of the outbox. -/
theorem open_received (h : l.Open) (hcount : l.Accounted) (hback : ∀ item ∈ l.outbox, item.msgType < 16)
    {type : Nat} {id : UInt16}
    (hack : ∀ msgType, Acks type msgType → l.count = 0 ∨ outboxDelete l.outbox id msgType = none)
    (htype : type ≠ 5) : (Ledger.mk l.outbox l.count (.received type id :: l.log)).Open := by
  refine h.leave l.count (List.Sublist.refl _) (fun item hitem hid => ?_) ?_ ⟨trivial, h.resent⟩
  · by_cases hsame : id = item.msgId
    · subst hsame
      obtain ⟨hlive, hpubrec⟩ := h.live item hitem hid
      unfold Item.Open
      rw [heard_received_self]
      refine ⟨List.forall_mem_cons.mpr ⟨fun hacks => ?_, hlive⟩, fun hpending => ?_⟩
      · rcases hack item.msgType hacks with hzero | hnone
        · have := List.length_pos_of_mem hitem
          unfold Ledger.Accounted at hcount
          omega
        · have hskip := takeFirst_eq_none hnone item hitem
          rw [Nat.mod_eq_of_lt ((hback item hitem).trans (by decide))] at hskip
          exact absurd hskip (by simp)
      · exact List.not_mem_cons_of_ne_of_not_mem (Ne.symm htype) (hpubrec hpending)
    · exact (h.live item hitem hid).of_heard (heard_received_ne hsame _ _)
  · intro item hitem
    exact h.sent item ((List.mem_cons.mp hitem).resolve_left (by simp))

/-- The message that is acknowledged leaves, and no other has its id. -/
theorem open_acked (h : l.Open) {ack msgType : Nat} {id : UInt16} {item : Item} {outbox : Outbox}
    (hdelete : outboxDelete l.outbox id msgType = some (item, outbox)) :
    (Ledger.mk outbox (wrap32 (l.count - 1)) (.dropped item .acked :: .received ack id :: l.log)).Open := by
  obtain ⟨hfound, pre, post, houtbox, rfl, -⟩ := takeFirst_eq_some hdelete
  rw [Bool.and_eq_true, beq_iff_eq] at hfound
  have hunique := h.unique
  rw [houtbox] at hunique
  have hsub := takeFirst_sublist hdelete
  refine h.leave _ hsub (fun it hit hid => ?_) ?_ ⟨trivial, trivial, h.resent⟩
  · have hne : id ≠ it.msgId := fun hsame =>
      hid (hunique.rest it hit (hsame.symm.trans hfound.1.symm))
    exact (h.live it (hsub.subset hit) hid).of_heard (heard_received_ne hne ack l.log)
  · intro it hit
    exact h.sent it (by simpa using hit)

/-- Whatever has the id has the mark. -/
theorem pending_setPending {outbox : Outbox} (h : Unique outbox) {id : UInt16} (hid : id ≠ 0)
    (pending : Pending) :
    ∀ item ∈ outboxSetPending outbox id pending, item.msgId = id → item.pending = pending := by
  intro item hitem hsame
  unfold outboxSetPending at hitem
  rcases updateFirst_cases (fun item : Item => item.msgId == id)
    (fun item => { item with pending := pending }) outbox with
    ⟨heq, hnone⟩ | ⟨pre, first, post, rfl, hpre, hfirst, heq⟩
  · rw [heq] at hitem
    exact absurd (hnone item hitem) (by simp [hsame])
  · rw [heq] at hitem
    rw [beq_iff_eq] at hfirst
    have hother (hmem : item ∈ pre ++ post) : item.pending = pending :=
      absurd (hsame ▸ h.rest item hmem (hsame.trans hfirst.symm)) hid
    rcases List.mem_append.mp hitem with hmem | hmem
    · exact hother (List.mem_append_left post hmem)
    · rcases List.mem_cons.mp hmem with rfl | hmem
      · rfl
      · exact hother (List.mem_append_right pre hmem)

/-- The message of a PUBREC is marked, and no other has its id. -/
theorem open_pubrec (h : l.Open) (id : UInt16) :
    (Ledger.mk (outboxSetPending l.outbox id .acknowledged) l.count (.received 5 id :: l.log)).Open := by
  have hmarked : (Ledger.mk (outboxSetPending l.outbox id .acknowledged) l.count l.log).Open :=
    h.update (fun _ => ⟨rfl, rfl, rfl⟩) fun _ _ _ _ hmark => absurd hmark (by simp)
  refine hmarked.leave _ (List.Sublist.refl _) (fun it hit hid => ?_) (fun it hit => ?_)
    ⟨trivial, h.resent⟩
  · by_cases hsame : id = it.msgId
    · subst hsame
      obtain ⟨hlive, -⟩ := hmarked.live it hit hid
      unfold Item.Open
      rw [heard_received_self]
      refine ⟨List.forall_mem_cons.mpr ⟨by simp [Acks], hlive⟩, fun hpending => ?_⟩
      rw [pending_setPending h.unique hid .acknowledged it hit rfl] at hpending
      exact absurd hpending (by simp)
    · exact (hmarked.live it hit hid).of_heard (heard_received_ne hsame 5 l.log)
  · exact h.sent it ((List.mem_cons.mp hit).resolve_left (by simp))

theorem open_queued (h : l.Open) {item : Item}
    (hnew : ∀ it ∈ l.outbox, it.msgId = item.msgId → it.msgId = 0)
    (hzero : item.msgType = mqttMsgTypePublish ∧ item.msgQos = 0 → item.msgId = 0) :
    (Ledger.mk (outboxEnqueue l.outbox item) (wrap32 (l.count + 1)) (.queued item :: l.log)).Open := by
  have hheard {it : Item} (hne : item.msgId ≠ it.msgId) :
      heard it.msgId (.queued item :: l.log) = heard it.msgId l.log := if_neg hne
  have hself : heard item.msgId (.queued item :: l.log) = [] := if_pos rfl
  refine ⟨List.pairwise_append.mpr ⟨h.unique, List.pairwise_singleton _ _, fun it hit it' hit' => ?_⟩,
    fun it hit hid => ?_, fun it hit => ?_, fun it hit => ?_, ⟨trivial, h.resent⟩⟩
  · rw [List.mem_singleton.mp hit']
    exact hnew it hit
  · rcases List.mem_append.mp hit with hold | hlast
    · exact (h.live it hold hid).of_heard (hheard fun hsame => hid (hnew it hold hsame.symm))
    · rw [List.mem_singleton.mp hlast]
      unfold Item.Open
      rw [hself]
      exact ⟨by simp, by simp⟩
  · rcases List.mem_append.mp hit with hold | hlast
    · exact h.zero it hold
    · rw [List.mem_singleton.mp hlast]
      exact hzero
  · exact h.sent it ((List.mem_cons.mp hit).resolve_left (by simp))

/-- Events that say nothing of the broker, and messages that leave. -/
theorem open_leave (h : l.Open ∧ l.Drew o) {outbox : Outbox} {log : List Event} (count : Int)
    (hsub : outbox.Sublist l.outbox) (hheard : ∀ id, heard id log = heard id l.log)
    (hsent : ∀ item, .dropped item .sent ∈ log → item.msgId = 0)
    (hresent : Explained Unacknowledged log) :
    (Ledger.mk outbox count log).Open ∧ (Ledger.mk outbox count log).Drew o := by
  refine ⟨h.1.leave count hsub (fun it hit hid => ?_) hsent hresent, fun it hit hdrawn => ?_⟩
  · exact (h.1.live it (hsub.subset hit) hid).of_heard (hheard _)
  · rw [show (Ledger.mk outbox count log).log = log from rfl, hheard]
    exact h.2 it (hsub.subset hit) hdrawn

theorem open_logDropped (h : l.Open ∧ l.Drew o) {outbox items : Outbox} {why : Leave} (count : Int)
    (hsub : outbox.Sublist l.outbox) (hwhy : why ≠ .sent) :
    (Ledger.mk outbox count (logDropped items why l.log)).Open
      ∧ (Ledger.mk outbox count (logDropped items why l.log)).Drew o := by
  have hdropped : ∀ e ∈ (items.map fun item => Event.dropped item why).reverse,
      ∃ item, e = .dropped item why := fun e he => by
    obtain ⟨item, -, rfl⟩ := List.mem_map.mp (List.mem_reverse.mp he)
    exact ⟨item, rfl⟩
  refine open_leave h count hsub (fun id => heard_logDropped id items why l.log)
    (fun item hitem => ?_) (h.1.resent.append fun e he es => ?_)
  · rcases List.mem_append.mp hitem with hnew | hold
    · obtain ⟨it, heq⟩ := hdropped _ hnew
      cases heq
      exact absurd rfl hwhy
    · exact h.1.sent item hold
  · obtain ⟨it, rfl⟩ := hdropped e he
    trivial

theorem open_update (h : l.Open ∧ l.Drew o) {p : Item → Bool} {f : Item → Item}
    (hf : ∀ item, (f item).msgId = item.msgId ∧ (f item).msgType = item.msgType
      ∧ (f item).msgQos = item.msgQos)
    (hpending : ∀ item ∈ l.outbox, p item = true → item.msgId ≠ 0 →
      (f item).pending = .queued ∨ (f item).pending = .transmitted → 5 ∉ heard item.msgId l.log) :
    (Ledger.mk (updateFirst p f l.outbox) l.count l.log).Open
      ∧ (Ledger.mk (updateFirst p f l.outbox) l.count l.log).Drew o := by
  refine ⟨h.1.update hf hpending, forall_updateFirst h.2 fun item hitem _ hdrawn => ?_⟩
  rw [(hf item).1] at hdrawn ⊢
  exact h.2 item hitem hdrawn

/-- Whoever marks a message as transmitted has not heard a PUBREC for it. -/
theorem not_heard_of_transmitted (h : l.Open ∧ l.Drew o) {id : UInt16} (hid : id ≠ 0)
    (hwhy : o.drawn = some id
      ∨ (∃ item ∈ l.outbox, item.msgId = id ∧ item.pending = .queued)
      ∨ ∃ item, .dropped item .sent ∈ l.log ∧ item.msgId = id) {item : Item}
    (hitem : item ∈ l.outbox) (hsame : item.msgId = id) : 5 ∉ heard item.msgId l.log := by
  rcases hwhy with hdrawn | ⟨it, hit, hitId, hpending⟩ | ⟨it, hit, hitId⟩
  · exact h.2 item hitem (hdrawn.trans (congrArg some hsame.symm))
  · rw [hsame, ← hitId]
    exact (h.1.live it hit (by rw [hitId]; exact hid)).2 (Or.inl hpending)
  · exact absurd (hitId.symm.trans (h.1.sent it hit)) hid

/-- **The step lemma.** The id that a step draws is new, and PUBRECs are answered. -/
theorem open_act (hact : Act o l l') (hcount : l.Accounted)
    (hback : ∀ item ∈ l.outbox, item.msgType < 16) (hdeaf : ¬ o.deaf)
    (hfresh : ∀ item ∈ o.outbox, o.drawn ≠ some item.msgId) (h : l.Open ∧ l.Drew o) :
    l'.Open ∧ l'.Drew o := by
  have hnone (hdrawn : o.drawn = none) (l' : Ledger) : l'.Drew o := fun it _ hsome =>
    absurd (hdrawn.symm.trans hsome) (by simp)
  cases hact with
  | plain e he =>
    refine open_leave h _ (List.Sublist.refl _) (fun id => heard_plain id he l.log)
      (fun it hit => ?_) ⟨?_, h.1.resent⟩
    · rcases List.mem_cons.mp hit with rfl | hit
      · exact Bool.noConfusion he
      · exact h.1.sent it hit
    · cases e with
      | opened | closed | wrote _ _ | dispatched _ | data _ => trivial
      | received _ _ | queued _ | resent _ | dropped _ _ => exact Bool.noConfusion he
  | received type id hdrawn hack hpubrec =>
    exact ⟨open_received h.1 hcount hback hack fun hfive => hdeaf (hpubrec hfive), hnone hdrawn _⟩
  | acked ack msgType id item outbox hdrawn hack hdelete =>
    exact ⟨open_acked h.1 hdelete, hnone hdrawn _⟩
  | pubrec id hdrawn => exact ⟨open_pubrec h.1 id, hnone hdrawn _⟩
  | confirmed id ack hack hlog =>
    exact open_update h (fun _ => ⟨rfl, rfl, rfl⟩) fun _ _ _ _ hmark => absurd hmark (by simp)
  | queued item hstart hrequest hpending htype hid hzero =>
    have hnew : ∀ it ∈ l.outbox, it.msgId = item.msgId → it.msgId = 0 := fun it hit hsame => by
      rw [hstart] at hit
      rcases hid with hdrawn | hid
      · exact absurd (hdrawn.trans (congrArg some hsame.symm)) (hfresh it hit)
      · exact hsame.trans hid
    refine ⟨open_queued h.1 hnew hzero, fun it hit hdrawn => ?_⟩
    show 5 ∉ (if item.msgId = it.msgId then [] else heard it.msgId l.log)
    split_ifs with hsame
    · exact List.not_mem_nil
    · rcases List.mem_append.mp hit with hold | hlast
      · exact h.2 it hold hdrawn
      · exact absurd (congrArg Item.msgId (List.mem_singleton.mp hlast)).symm hsame
  | lost => exact ⟨⟨h.1.unique, h.1.live, h.1.zero, h.1.sent, h.1.resent⟩, h.2⟩
  | transmitted id hid =>
    refine open_update h (fun _ => ⟨rfl, rfl, rfl⟩) fun it hit hsame hne _ => ?_
    rw [beq_iff_eq] at hsame
    exact not_heard_of_transmitted h (by rw [← hsame]; exact hne) hid hit hsame
  | ticked id tick =>
    exact open_update h (fun _ => ⟨rfl, rfl, rfl⟩) fun it hit _ hne => (h.1.live it hit hne).2
  | duplicate pending =>
    exact open_update h (fun _ => ⟨rfl, rfl, rfl⟩) fun it hit _ hne => (h.1.live it hit hne).2
  | resent item hmem hpending =>
    refine open_leave h _ (List.Sublist.refl _) (fun _ => rfl)
      (fun it hit => h.1.sent it ((List.mem_cons.mp hit).resolve_left (by simp)))
      ⟨fun hid type htype => ?_, h.1.resent⟩
    obtain ⟨hlive, hpubrec⟩ := h.1.live item hmem hid
    exact ⟨hlive type htype, fun hfive => hpubrec hpending (hfive ▸ htype)⟩
  | expired now => exact open_logDropped h _ (deleteExpired_sublist _ _ _) (by simp)
  | sent item outbox ret hret hpublish hlog hdelete =>
    refine open_leave h _ (takeFirst_sublist hdelete) (fun _ => rfl) (fun it hit => ?_)
      ⟨trivial, h.1.resent⟩
    rcases List.mem_cons.mp hit with heq | hold
    · cases heq
      exact h.1.zero item ((takeFirst_perm hdelete).mem_iff.mpr List.mem_cons_self) hpublish
    · exact h.1.sent it hold
  | cleaned => exact open_logDropped h _ (cleanupLoop_sublist _ _ _) (by simp)

/-! ## Every run -/

/-- The id that the input draws is not in use. -/
def Input.Fresh (s : Session) (i : Input) : Prop := ∀ item ∈ s.outbox, i.drawn ≠ some item.msgId

instance (s : Session) (i : Input) : Decidable (i.Fresh s) := by unfold Input.Fresh; infer_instance

/-- What every step keeps. -/
structure Session.Keeps (cap : Nat) (s : Session) : Prop where
  sound : s.Sound False cap (2 ^ 32)
  accounted : s.ledger.Accounted
  reasoned : s.ledger.Reasoned
  opened : s.ledger.Open

theorem keeps_step {s : Session} {cap : Nat} (hcap : 7 ≤ cap) (h : s.Keeps cap) {i : Input}
    (hlegal : i.Legal (cap - mqttMaxFixedHeaderSize)) (hfresh : i.Fresh s) (hcounts : i.Counts s) :
    (s.step i).Keeps cap := by
  have hdeaf : ¬ s.NoPubrel := by
    rintro ⟨msgId, drawn, hfail⟩
    exact mqttMsgAck_ne_nil h.sound.1.1 (by rw [h.sound.1.2.2]; exact hcap) 6 1 msgId drawn hfail
  have hroom : cap - mqttMaxFixedHeaderSize = s.conn.room :=
    congrArg (· - mqttMaxFixedHeaderSize) h.sound.1.2.2.symm
  rw [hroom] at hlegal
  have hsound := sound_step h.sound hlegal (fun hclear => hclear.elim) (2 ^ 32 + 6) le_rfl
    fun _ => by omega
  have hacts := Acts.inv
    (I := fun l => (l.Accounted ∧ l.count ≤ (s.origin i).most) ∧ l.Reasoned ∧ l.Open
      ∧ l.Drew (s.origin i))
    (fun l l' hact hl => ?_) (acts_step s i)
    ⟨⟨h.accounted, count_le_most s i⟩, h.reasoned, h.opened,
      fun item hitem hdrawn => absurd hdrawn (hfresh item hitem)⟩
  · obtain ⟨⟨haccounted, -⟩, hreasoned, hopened, -⟩ := hacts
    exact ⟨⟨⟨hsound.1.1, (UInt32.toNat_lt _).le, hsound.1.2.2⟩, hsound.2⟩, haccounted, hreasoned,
      hopened⟩
  · obtain ⟨haccounted, hreasoned, hopen⟩ := hl
    exact ⟨accounted_act hact hcounts haccounted, reasoned_act hact hreasoned,
      open_act hact haccounted.1 (fun item hitem => (hreasoned.backed item hitem).1) hdeaf hfresh hopen⟩

/-- **Nothing is sent again behind its acknowledgement.** In every run whose ids are not in use
when they are drawn, a stored message that is sent again was not acknowledged since it was stored:
no PUBACK, PUBREC or PUBCOMP with its id was received for a PUBLISH, and no SUBACK or UNSUBACK for
a request. The inputs are legal, fewer than `2 ^ 31` of them are counted, and the buffer has room for
a PUBREL. -/
theorem run_resent (config : Config) (now : Int) {inputs : List Input}
    (hfew : requests inputs < 2 ^ 31)
    (hbuffer : 7 ≤ config.outBufferLength)
    (hlegal : ∀ i ∈ inputs, i.Legal (config.outBufferLength - mqttMaxFixedHeaderSize))
    (hfresh : AllSteps (silent Session.step) (fun s i => i.Fresh s) (.init config now) inputs) :
    Explained Unacknowledged (config.run now inputs).log := by
  have hinit : (Session.init config now).Keeps config.outBufferLength :=
    ⟨sound_init config now, le_rfl, ⟨trivial, fun _ h => absurd h List.not_mem_nil⟩,
      ⟨List.Pairwise.nil, fun _ h => absurd h List.not_mem_nil,
        fun _ h => absurd h List.not_mem_nil, fun _ h => absurd h List.not_mem_nil, trivial⟩⟩
  have hkeeps : (config.run now inputs).Keeps config.outBufferLength :=
    run_inv (I := Session.Keeps config.outBufferLength)
      (C := fun s i => (Input.Legal (config.outBufferLength - mqttMaxFixedHeaderSize) i ∧ i.Fresh s)
        ∧ i.Counts s)
      (fun s i hs hi => keeps_step hbuffer hs hi.1.1 hi.1.2 hi.2) hinit
      (((AllSteps.of_forall_mem hlegal _).and hfresh).and (counts_init config now hfew))
  exact hkeeps.opened.resent

/-- The client publishes at QoS 2 before it is connected, sends the message in its first round and
gets the PUBREC in its second one. -/
def pubrecInputs : List Input :=
  [.start,
    .publish { topic := [116], data := some [1, 2], len := 2, qos := 2, id := sampleId } {},
    .connect
      { write := ⟨15, 0⟩
        attempts := [[.data [0x20], .data [2], .data [0, 0]]] },
    .round { resendWrite := ⟨9, 0⟩ },
    .round { answers := [.data [0x50], .data [2], .data [0, 5]], ackWrite := ⟨4, 0⟩ }]

theorem run_resent_pubrec :
    .received 5 5 ∈ (smallConfig.run 0 pubrecInputs).log
      ∧ Explained Unacknowledged (smallConfig.run 0 pubrecInputs).log := by
  refine ⟨by decide +kernel, run_resent smallConfig 0 (by decide) (by decide) (fun i hi => ?_)
    (by decide +kernel)⟩
  simp only [pubrecInputs, List.mem_cons, List.not_mem_nil, or_false] at hi
  rcases hi with rfl | rfl | rfl | rfl | rfl
  · trivial
  · exact ⟨⟨by decide, by decide +kernel⟩, fun h => absurd h (by decide)⟩
  · trivial
  · trivial
  · trivial

end ControlFan.Mqtt
