import Mathlib.Data.List.TakeWhile
import Mathlib.Data.Nat.ModEq
import ControlFan.Lib.Records
import ControlFan.Ota.Image

/-!
# Ota — which partition boots (`app_update/esp_ota_ops.c`)

Two sectors of the `otadata` partition hold a sequence number each; of the two entries that are
valid the one with the higher number selects the OTA slot that boots. To select another slot its
number is written into the entry that does not count.

* **`Table`**, **`OtaSelectEntry`** — the app partitions, and an entry of `otadata`;
* **`BootloaderCommon`** — what `bootloader_support` says about the entries; it is not part of the
  source, `Documented` says what is known of it;
* **`espOtaGetBootPartition`**, **`espOtaSetBootPartition`** and the calls for a rollback;
* **`boot_cases`** — the current number decides;
* **`setBoot_atomic`** — whatever becomes of the flash under `esp_ota_set_boot_partition`, the old
  partition boots or the new one, and the new one when the call has returned `ESP_OK`.
-/

namespace ControlFan.Ota

/-! ## The partition table -/

/-- The subtypes of the app partitions. -/
inductive AppSubtype where
  | factory
  | ota (slot : Fin 16)
  | test
  deriving DecidableEq, Repr

/-- `SUB_TYPE_ID`: the low four bits. Those of the test partition, 0x20, are those of slot 0. -/
def AppSubtype.subTypeId : AppSubtype → UInt32
  | .ota slot => UInt32.ofNat slot
  | .factory | .test => 0

/-- The app partitions of the table. -/
abbrev Table := List AppSubtype

/-- `esp_partition_find_first` of an app partition. -/
def findFirst (t : Table) (p : AppSubtype) : Option AppSubtype := t.find? (· == p)

def getOtaPartitionCount (t : Table) : Nat :=
  ((List.finRange 16).takeWhile fun slot => (findFirst t (.ota slot)).isSome).length

/-- `find_default_boot_partition`: factory, the first OTA slot there is, test. -/
def findDefaultBootPartition (t : Table) : Option AppSubtype :=
  ([AppSubtype.factory] ++ (List.finRange 16).map AppSubtype.ota ++ [AppSubtype.test]).findSome? (findFirst t)

/-- The loop of `esp_ota_get_next_update_partition`, with `default_ota` and `next_is_result`. -/
def nextUpdateLoop (t : Table) (startFrom : AppSubtype) :
    Option AppSubtype → Bool → List (Fin 16) → Option AppSubtype
  | defaultOta, _, [] => defaultOta
  | defaultOta, nextIsResult, slot :: slots =>
    match findFirst t (.ota slot) with
    | none => nextUpdateLoop t startFrom defaultOta nextIsResult slots
    | some p =>
      if p = startFrom then nextUpdateLoop t startFrom (defaultOta.or (some p)) true slots
      else if nextIsResult then some p
      else nextUpdateLoop t startFrom (defaultOta.or (some p)) false slots

def espOtaGetNextUpdatePartition (t : Table) (startFrom : AppSubtype) : Option AppSubtype :=
  nextUpdateLoop t startFrom none false (List.finRange 16)

/-! ## The entries -/

def espOtaImgValid : UInt32 := 2
def espOtaImgInvalid : UInt32 := 3
def espOtaImgAborted : UInt32 := 4
def espOtaImgUndefined : UInt32 := 0xFFFFFFFF

/-- `esp_ota_select_entry_t`. -/
structure OtaSelectEntry where
  otaSeq : UInt32
  otaState : UInt32
  crc : UInt32
  deriving DecidableEq, Repr

/-- An erased sector. -/
def erasedEntry : OtaSelectEntry := ⟨0xFFFFFFFF, 0xFFFFFFFF, 0xFFFFFFFF⟩

/-- The two entries of `otadata`. -/
abbrev Otadata := Fin 2 → OtaSelectEntry

/-- The functions of `bootloader_common.h`. -/
structure BootloaderCommon where
  otaSelectCrc : OtaSelectEntry → UInt32
  otaSelectInvalid : OtaSelectEntry → Bool
  otaSelectValid : OtaSelectEntry → Bool
  selectOtadata : Otadata → (Fin 2 → Bool) → Bool → Option (Fin 2)
  getActiveOtadata : Otadata → Option (Fin 2)

/-- What their documentation says: the checksum is one of the sequence number; an entry is invalid
that is erased or marked so, and valid with its checksum; of the entries that are asked about one
with the highest number is selected. -/
structure BootloaderCommon.Documented (b : BootloaderCommon) : Prop where
  crc (e e' : OtaSelectEntry) : e.otaSeq = e'.otaSeq → b.otaSelectCrc e = b.otaSelectCrc e'
  invalid (e : OtaSelectEntry) : b.otaSelectInvalid e = true
    ↔ e.otaSeq = 0xFFFFFFFF ∨ e.otaState = espOtaImgInvalid ∨ e.otaState = espOtaImgAborted
  valid (e : OtaSelectEntry) : b.otaSelectValid e = true
    ↔ b.otaSelectInvalid e = false ∧ e.crc = b.otaSelectCrc e
  select_some (o : Otadata) (v : Fin 2 → Bool) (i : Fin 2) : b.selectOtadata o v true = some i →
    v i = true ∧ ∀ j, v j = true → (o j).otaSeq ≤ (o i).otaSeq
  select_none (o : Otadata) (v : Fin 2 → Bool) : b.selectOtadata o v true = none →
    ∀ i, v i = false
  active (o : Otadata) :
    b.getActiveOtadata o = b.selectOtadata o (fun i => b.otaSelectValid (o i)) true

/-- What is left of an entry whose sector was being erased or written. -/
inductive Rest where
  | before
  | after
  | torn (e : OtaSelectEntry)
  deriving DecidableEq, Repr

def Rest.entry (before after : OtaSelectEntry) : Rest → OtaSelectEntry
  | .before => before
  | .after => after
  | .torn e => e

/-- `rewrite_ota_seq`; `entry` is `two_otadata[sec_id]`. -/
def rewriteOtaSeq (b : BootloaderCommon) (o : Otadata) (entry : OtaSelectEntry) (seq : UInt32)
    (sec : Fin 2) (erase write : Answer Rest) : Otadata × Outcome :=
  let entry := { entry with otaSeq := seq }
  let entry := { entry with crc := b.otaSelectCrc entry }
  match erase with
  | .failed code _ rest =>
    (Function.update o sec (rest.entry (o sec) erasedEntry), .returned code)
  | .cut rest => (Function.update o sec (rest.entry (o sec) erasedEntry), .off)
  | .done =>
    match write with
    | .done => (Function.update o sec entry, .returned espOk)
    | .failed code _ rest => (Function.update o sec (rest.entry erasedEntry entry), .returned code)
    | .cut rest => (Function.update o sec (rest.entry erasedEntry entry), .off)

/-! ## The partition that boots -/

/-- The OTA slot of a sequence number. -/
def slotOf (count : Nat) (seq : UInt32) : Fin 16 :=
  Fin.ofNat 16 ((seq - 1).toNat % count)

/-- `esp_ota_get_boot_partition`. -/
def espOtaGetBootPartition (t : Table) (b : BootloaderCommon) (o : Otadata) : Option AppSubtype :=
  let count := getOtaPartitionCount t
  if (b.otaSelectInvalid (o 0) ∧ b.otaSelectInvalid (o 1)) ∨ count = 0 then
    findDefaultBootPartition t
  else
    match b.getActiveOtadata o with
    | some active => findFirst t (.ota (slotOf count (o active).otaSeq))
    | none => findDefaultBootPartition t

/-- The loop of `esp_rewrite_ota_data`, which counts `i` up until the number is not below the
current one. The arithmetic is that of `uint32_t`; `none` is a loop that has tried every `i`. -/
def seqLoop (seq first count : UInt32) : Nat → UInt32 → Option UInt32
  | 0, _ => none
  | fuel + 1, i =>
    if first + i * count < seq then seqLoop seq first count fuel (i + 1)
    else some (first + i * count)

/-- What `esp_ota_set_boot_partition` meets: whether `otadata` can be mapped, and the flash. The
last two answers are for the two sectors of an `otadata` that is erased as a whole. -/
structure SetBootEnv where
  mapped : Bool := true
  erase : Answer Rest := .done
  write : Answer Rest := .done
  eraseAll : Answer (Rest × Rest) := .done
  deriving Repr

/-- The other sector, `(~active_otadata) & 1`. -/
abbrev nextOtadata (active : Fin 2) : Fin 2 := active + 1

/-- `esp_rewrite_ota_data`. The new state is `set_new_state_otadata` without rollback. -/
def espRewriteOtaData (t : Table) (b : BootloaderCommon) (o : Otadata) (p : AppSubtype)
    (e : SetBootEnv) : Otadata × Outcome :=
  let count := getOtaPartitionCount t
  if ¬ e.mapped then (o, .returned espErrNotFound)
  else if count ≤ p.subTypeId.toNat then (o, .returned espErrInvalidArg)
  else
    match b.getActiveOtadata o with
    | some active =>
      let count := UInt32.ofNat count
      match seqLoop (o active).otaSeq ((p.subTypeId + 1) % count) count (2 ^ 32) 0 with
      | none => (o, .stuck)
      | some seq =>
        -- the entry that does not count
        let next := nextOtadata active
        rewriteOtaSeq b o { o next with otaState := espOtaImgUndefined } seq next e.erase e.write
    | none =>
      rewriteOtaSeq b o { o 0 with otaState := espOtaImgUndefined } (p.subTypeId + 1) 0 e.erase
        e.write

/-- What is left of the two sectors of an `otadata` that was being erased. -/
def erasedBoth (o : Otadata) (rest : Rest × Rest) : Otadata :=
  fun i => (if i = 0 then rest.1 else rest.2).entry (o i) erasedEntry

/-- `esp_ota_set_boot_partition`; `verified` is the verdict of `image_validate`. -/
def espOtaSetBootPartition (t : Table) (b : BootloaderCommon) (o : Otadata)
    (p : Option AppSubtype) (verified : Bool) (e : SetBootEnv) : Otadata × Outcome :=
  match p with
  | none => (o, .returned espErrInvalidArg)
  | some p =>
    if ¬ verified then (o, .returned espErrOtaValidateFailed)
    else if p ≠ .factory then espRewriteOtaData t b o p e
    else if ¬ e.mapped then (o, .returned espErrNotFound)
    else
      -- the factory partition boots from an erased `otadata`
      match e.eraseAll with
      | .done => (fun _ => erasedEntry, .returned espOk)
      | .failed code _ rest => (erasedBoth o rest, .returned code)
      | .cut rest => (erasedBoth o rest, .off)

/-! ## The current number -/

/-- The numbers of the valid entries. -/
abbrev seqs (b : BootloaderCommon) (o : Otadata) : Set Nat :=
  Records.numbers b.otaSelectValid (fun e => e.otaSeq.toNat) o

variable {b : BootloaderCommon} {t : Table} {o : Otadata}

theorem getOtaPartitionCount_le (t : Table) : getOtaPartitionCount t ≤ 16 :=
  (List.takeWhile_prefix _).length_le.trans_eq List.length_finRange

theorem findFirst_eq_some {p q : AppSubtype} (h : findFirst t p = some q) : q = p ∧ p ∈ t := by
  have hq : (q == p) = true := List.find?_some (p := (· == p)) h
  have hmem := List.mem_of_find?_eq_some h
  rw [beq_iff_eq.mp hq] at hmem
  exact ⟨beq_iff_eq.mp hq, hmem⟩

theorem findFirst_of_mem {p : AppSubtype} (h : p ∈ t) : findFirst t p = some p := by
  have hsome : (findFirst t p).isSome := List.find?_isSome.mpr ⟨_, h, beq_self_eq_true _⟩
  obtain ⟨q, hq⟩ := Option.isSome_iff_exists.mp hsome
  rwa [(findFirst_eq_some hq).1] at hq

/-- The slots below the count are those that were counted. -/
theorem findFirst_ota {slot : Fin 16} (h : slot < getOtaPartitionCount t) :
    findFirst t (.ota slot) = some (.ota slot) := by
  have hprefix := List.takeWhile_prefix
    (fun slot => (findFirst t (AppSubtype.ota slot)).isSome) (l := List.finRange 16)
  have hget := hprefix.getElem h
  rw [List.getElem_finRange] at hget
  have hmem := List.mem_takeWhile_imp (List.getElem_mem h)
  rw [hget] at hmem
  obtain ⟨p, hp⟩ := Option.isSome_iff_exists.mp hmem
  obtain ⟨rfl, -⟩ := findFirst_eq_some hp
  exact hp

theorem active_some (hb : b.Documented) {i : Fin 2} (h : b.getActiveOtadata o = some i) :
    b.otaSelectValid (o i) = true ∧ IsGreatest (seqs b o) (o i).otaSeq.toNat := by
  rw [hb.active] at h
  obtain ⟨hvalid, hle⟩ := hb.select_some o _ i h
  refine ⟨hvalid, Records.mem_numbers hvalid, ?_⟩
  rintro n ⟨j, hj, rfl⟩
  exact UInt32.le_iff_toNat_le.mp (hle j hj)

theorem active_none (hb : b.Documented) (h : b.getActiveOtadata o = none) : seqs b o = ∅ := by
  rw [hb.active] at h
  refine Set.eq_empty_iff_forall_notMem.mpr ?_
  rintro n ⟨i, hi, -⟩
  exact Bool.false_ne_true ((hb.select_none o _ h i).symm.trans hi)

theorem slotOf_lt {count : Nat} (hpos : 0 < count) (hle : count ≤ 16) (seq : UInt32) :
    (slotOf count seq).val < count := by
  have hlt : (seq - 1).toNat % count < count := Nat.mod_lt _ hpos
  unfold slotOf
  rw [Fin.val_ofNat, Nat.mod_eq_of_lt (by omega)]
  exact hlt

/-- The current number selects its slot. -/
theorem boot_of_isGreatest (hb : b.Documented) (hcount : 0 < getOtaPartitionCount t) {seq : UInt32}
    (h : IsGreatest (seqs b o) seq.toNat) :
    espOtaGetBootPartition t b o = some (.ota (slotOf (getOtaPartitionCount t) seq)) := by
  obtain ⟨⟨i, hvalid, hnumber⟩, -⟩ := id h
  have hinvalid : b.otaSelectInvalid (o i) = false := ((hb.valid (o i)).mp hvalid).1
  have hsome : ¬ ((b.otaSelectInvalid (o 0) ∧ b.otaSelectInvalid (o 1))
      ∨ getOtaPartitionCount t = 0) := by
    rintro (⟨h0, h1⟩ | hzero)
    · match i with
      | 0 => exact Bool.false_ne_true (hinvalid.symm.trans h0)
      | 1 => exact Bool.false_ne_true (hinvalid.symm.trans h1)
    · omega
  unfold espOtaGetBootPartition
  dsimp only
  rw [if_neg hsome]
  cases hactive : b.getActiveOtadata o with
  | none => exact absurd h.1 (by rw [active_none hb hactive]; exact Set.notMem_empty _)
  | some active =>
    have hseq : (o active).otaSeq = seq :=
      UInt32.toNat_inj.mp ((active_some hb hactive).2.unique h)
    show findFirst t (.ota (slotOf _ (o active).otaSeq)) = _
    rw [hseq]
    exact findFirst_ota (slotOf_lt hcount (getOtaPartitionCount_le t) seq)

theorem boot_of_empty (hb : b.Documented) (h : seqs b o = ∅) :
    espOtaGetBootPartition t b o = findDefaultBootPartition t := by
  unfold espOtaGetBootPartition
  dsimp only
  split_ifs
  · rfl
  · cases hactive : b.getActiveOtadata o with
    | none => rfl
    | some active =>
      have hmem := (active_some hb hactive).2.1
      rw [h] at hmem
      exact absurd hmem (Set.notMem_empty _)

/-- Either an entry counts, or none is valid. -/
theorem boot_cases (hb : b.Documented) (o : Otadata) :
    (∃ seq : UInt32, IsGreatest (seqs b o) seq.toNat) ∨ seqs b o = ∅ := by
  cases hactive : b.getActiveOtadata o with
  | none => exact Or.inr (active_none hb hactive)
  | some active => exact Or.inl ⟨_, (active_some hb hactive).2⟩

/-- The partition that boots depends on the valid numbers only. -/
theorem boot_congr (hb : b.Documented) {o' : Otadata} (h : seqs b o' = seqs b o) :
    espOtaGetBootPartition t b o' = espOtaGetBootPartition t b o := by
  rcases Nat.eq_zero_or_pos (getOtaPartitionCount t) with hzero | hpos
  · unfold espOtaGetBootPartition
    dsimp only
    rw [if_pos (Or.inr hzero), if_pos (Or.inr hzero)]
  · rcases boot_cases hb o with ⟨seq, hseq⟩ | hempty
    · rw [boot_of_isGreatest hb hpos hseq, boot_of_isGreatest hb hpos (h ▸ hseq)]
    · rw [boot_of_empty hb hempty, boot_of_empty hb (h.trans hempty)]

/-! ## The next number -/

/-- **The loop ends** at the first number from `seq` on that is `first` modulo `count`. -/
theorem seqLoop_spec (seq first count : UInt32) (fuel : Nat) (i : UInt32)
    (hcount : 0 < count.toNat) (hroom : seq.toNat + count.toNat < 2 ^ 32)
    (hi : first.toNat + i.toNat * count.toNat < seq.toNat + count.toNat)
    (hfuel : seq.toNat < fuel + i.toNat) :
    ∃ next, seqLoop seq first count fuel i = some next ∧ seq.toNat ≤ next.toNat
      ∧ next.toNat < seq.toNat + count.toNat ∧ next.toNat % count.toNat = first.toNat % count.toNat := by
  induction fuel generalizing i with
  | zero =>
    -- no number below `seq` is left
    have hmul : seq.toNat * count.toNat + count.toNat ≤ i.toNat * count.toNat := by
      rw [← Nat.succ_mul]
      exact Nat.mul_le_mul_right _ (by omega)
    have hle : seq.toNat ≤ seq.toNat * count.toNat := Nat.le_mul_of_pos_right _ hcount
    omega
  | succ fuel ih =>
    have hvalue : (first + i * count).toNat = first.toNat + i.toNat * count.toNat := by
      rw [UInt32.toNat_add, UInt32.toNat_mul, Nat.add_mod_mod]
      exact Nat.mod_eq_of_lt (hi.trans hroom)
    rw [seqLoop]
    split_ifs with hless
    · rw [UInt32.lt_iff_toNat_lt, hvalue] at hless
      have hle : i.toNat ≤ i.toNat * count.toNat := Nat.le_mul_of_pos_right _ hcount
      have hnext : (i + 1).toNat = i.toNat + 1 := by
        rw [UInt32.toNat_add]
        exact Nat.mod_eq_of_lt (by rw [UInt32.toNat_one]; omega)
      refine ih _ ?_ ?_
      · rw [hnext, Nat.succ_mul]
        omega
      · rw [hnext]
        omega
    · rw [UInt32.lt_iff_toNat_lt, hvalue] at hless
      refine ⟨_, rfl, ?_, ?_, ?_⟩
      · omega
      · omega
      · rw [hvalue, Nat.add_mul_mod_self_right]

/-- A number that is the slot's successor selects the slot. -/
theorem slotOf_eq {count : Nat} {seq : UInt32} {slot : Fin 16} (hslot : slot.val < count)
    (hpos : 0 < seq.toNat) (h : seq.toNat % count = (slot.val + 1) % count) :
    slotOf count seq = slot := by
  have hpred : (seq - 1).toNat = seq.toNat - 1 := by
    rw [UInt32.toNat_sub_of_le]
    · rfl
    · exact UInt32.le_iff_toNat_le.mpr hpos
  have hmod : (seq.toNat - 1) % count = slot.val := by
    have hsucc : (seq.toNat - 1 + 1) % count = (slot.val + 1) % count := by
      rw [Nat.sub_add_cancel hpos]
      exact h
    have := Nat.ModEq.add_right_cancel' 1 (show (seq.toNat - 1 + 1) ≡ (slot.val + 1) [MOD count] from hsucc)
    exact (show (seq.toNat - 1) % count = slot.val % count from this).trans (Nat.mod_eq_of_lt hslot)
  ext
  unfold slotOf
  rw [hpred, hmod, Fin.val_ofNat]
  exact Nat.mod_eq_of_lt slot.isLt

/-! ## Overwriting an entry -/

/-- What is left of an entry that was neither begun nor finished does not pass for valid. -/
def Rest.Legal (b : BootloaderCommon) : Rest → Prop
  | .before | .after => True
  | .torn e => b.otaSelectValid e = false

def Answer.Legal {α : Type} (P : α → Prop) : Answer α → Prop
  | .done => True
  | .failed _ _ rest | .cut rest => P rest

structure SetBootEnv.Legal (b : BootloaderCommon) (e : SetBootEnv) : Prop where
  erase : e.erase.Legal (Rest.Legal b)
  write : e.write.Legal (Rest.Legal b)

theorem invalid_erasedEntry (hb : b.Documented) : b.otaSelectValid erasedEntry = false := by
  refine Bool.eq_false_of_not_eq_true fun hvalid => ?_
  have hinvalid := (hb.invalid erasedEntry).mpr (Or.inl rfl)
  exact Bool.false_ne_true (((hb.valid _).mp hvalid).1.symm.trans hinvalid)

/-- The entry that `rewrite_ota_seq` writes. -/
def writtenEntry (b : BootloaderCommon) (entry : OtaSelectEntry) (seq : UInt32) : OtaSelectEntry :=
  { entry with otaSeq := seq, crc := b.otaSelectCrc { entry with otaSeq := seq } }

theorem valid_writtenEntry (hb : b.Documented) (entry : OtaSelectEntry) {seq : UInt32}
    (hseq : seq ≠ 0xFFFFFFFF) (hinvalid : entry.otaState ≠ espOtaImgInvalid)
    (haborted : entry.otaState ≠ espOtaImgAborted) :
    b.otaSelectValid (writtenEntry b entry seq) = true := by
  refine (hb.valid _).mpr ⟨Bool.eq_false_of_not_eq_true fun h => ?_, hb.crc _ _ rfl⟩
  rcases (hb.invalid _).mp h with hmax | hstate | hstate
  · exact hseq hmax
  · exact hinvalid hstate
  · exact haborted hstate

theorem left_erase (hb : b.Documented) (sec : Fin 2) (entry : OtaSelectEntry) {rest : Rest}
    (h : rest.Legal b) :
    Records.Left b.otaSelectValid o sec entry
      (Function.update o sec (rest.entry (o sec) erasedEntry)) := by
  cases rest with
  | before =>
    show Records.Left _ o sec entry (Function.update o sec (o sec))
    rw [Function.update_eq_self]
    exact .untouched
  | after => exact .torn _ (invalid_erasedEntry hb)
  | torn e => exact .torn e h

theorem left_write (hb : b.Documented) (sec : Fin 2) (entry : OtaSelectEntry) {rest : Rest}
    (h : rest.Legal b) :
    Records.Left b.otaSelectValid o sec entry
      (Function.update o sec (rest.entry erasedEntry entry)) := by
  cases rest with
  | before => exact .torn _ (invalid_erasedEntry hb)
  | after => exact .written
  | torn e => exact .torn e h

/-- `rewrite_ota_seq` overwrites one entry. -/
theorem rewriteOtaSeq_left (hb : b.Documented) (o : Otadata) (entry : OtaSelectEntry) (seq : UInt32)
    (sec : Fin 2) {erase write : Answer Rest} (herase : erase.Legal (Rest.Legal b))
    (hwrite : write.Legal (Rest.Legal b)) :
    Records.Left b.otaSelectValid o sec (writtenEntry b entry seq)
        (rewriteOtaSeq b o entry seq sec erase write).1
      ∧ ((rewriteOtaSeq b o entry seq sec erase write).2 = .returned espOk →
        (rewriteOtaSeq b o entry seq sec erase write).1
          = Function.update o sec (writtenEntry b entry seq))
      ∧ (rewriteOtaSeq b o entry seq sec erase write).2 ≠ .stuck := by
  unfold rewriteOtaSeq
  cases erase with
  | failed code hcode rest =>
    exact ⟨left_erase hb sec _ herase, fun hok => absurd (Outcome.returned.inj hok) hcode,
      Outcome.noConfusion⟩
  | cut rest =>
    exact ⟨left_erase hb sec _ herase, fun hok => Outcome.noConfusion hok, Outcome.noConfusion⟩
  | done =>
    cases write with
    | done => exact ⟨.written, fun _ => rfl, Outcome.noConfusion⟩
    | failed code hcode rest =>
      exact ⟨left_write hb sec _ hwrite, fun hok => absurd (Outcome.returned.inj hok) hcode,
        Outcome.noConfusion⟩
    | cut rest =>
      exact ⟨left_write hb sec _ hwrite, fun hok => Outcome.noConfusion hok, Outcome.noConfusion⟩

/-! ## Selecting a slot -/

/-- The numbers have room for one more round through the slots. -/
def Roomy (t : Table) (b : BootloaderCommon) (o : Otadata) : Prop :=
  ∀ n ∈ seqs b o, 0 < n ∧ n + getOtaPartitionCount t < 2 ^ 32 - 1

/-- An entry for a slot, to be written into a sector that does not count. -/
structure Newer (t : Table) (b : BootloaderCommon) (o : Otadata) (slot : Fin 16) (sec : Fin 2)
    (entry : OtaSelectEntry) : Prop where
  valid : b.otaSelectValid entry = true
  pos : 0 < entry.otaSeq.toNat
  slot : slotOf (getOtaPartitionCount t) entry.otaSeq = slot
  spare : ∀ m, IsGreatest (seqs b o) m →
    ∃ i, (b.otaSelectValid (o i) = true ∧ (o i).otaSeq.toNat = m) ∧ i ≠ sec
  newer : ∀ m ∈ seqs b o, m ≤ entry.otaSeq.toNat
  bounded : ∀ k, (∀ m ∈ seqs b o, m ≤ k) → entry.otaSeq.toNat ≤ k + getOtaPartitionCount t

theorem ne_max_of_lt {seq : UInt32} (h : seq.toNat < 2 ^ 32 - 1) : seq ≠ 0xFFFFFFFF := by
  rintro rfl
  exact absurd h (by decide)

theorem ne_other (i : Fin 2) : i ≠ i + 1 := by
  revert i
  decide

/-- With the entry `active` in force, the loop finds the number for the other one. -/
theorem newer_of_active (hb : b.Documented) {slot : Fin 16} (hslot : slot < getOtaPartitionCount t)
    (hroom : Roomy t b o) {active : Fin 2} (hactive : b.getActiveOtadata o = some active) :
    ∃ seq,
      seqLoop (o active).otaSeq
          (((AppSubtype.ota slot).subTypeId + 1) % UInt32.ofNat (getOtaPartitionCount t))
          (UInt32.ofNat (getOtaPartitionCount t)) (2 ^ 32) 0 = some seq
        ∧ Newer t b o slot (active + 1)
          (writtenEntry b { o (active + 1) with otaState := espOtaImgUndefined } seq) := by
  obtain ⟨hvalid, hgreatest⟩ := active_some hb hactive
  obtain ⟨hpos, hlt⟩ := hroom _ hgreatest.1
  have hle := getOtaPartitionCount_le t
  have hcount : (UInt32.ofNat (getOtaPartitionCount t)).toNat = getOtaPartitionCount t := by
    show getOtaPartitionCount t % 2 ^ 32 = _
    omega
  have hfirst : (((AppSubtype.ota slot).subTypeId + 1)
      % UInt32.ofNat (getOtaPartitionCount t)).toNat = (slot.val + 1) % getOtaPartitionCount t := by
    have hid : (AppSubtype.ota slot).subTypeId.toNat = slot.val := by
      show slot.val % 2 ^ 32 = slot.val
      omega
    rw [UInt32.toNat_mod, UInt32.toNat_add, hid, hcount, UInt32.toNat_one]
    rw [Nat.mod_eq_of_lt (a := slot.val + 1) (by omega)]
  have hbelow : (slot.val + 1) % getOtaPartitionCount t < getOtaPartitionCount t :=
    Nat.mod_lt _ (by omega)
  obtain ⟨seq, hloop, hge, hless, hmod⟩ := seqLoop_spec (o active).otaSeq
    (((AppSubtype.ota slot).subTypeId + 1) % UInt32.ofNat (getOtaPartitionCount t))
    (UInt32.ofNat (getOtaPartitionCount t)) (2 ^ 32) 0 (by omega) (by omega) (by rw [hfirst, hcount, UInt32.toNat_zero]; omega)
    (Nat.lt_add_right _ (UInt32.toNat_lt _))
  rw [hcount] at hless
  rw [hcount, hfirst, Nat.mod_mod] at hmod
  refine ⟨seq, hloop, ?_⟩
  refine ⟨valid_writtenEntry hb _ (ne_max_of_lt ?_)
      (show espOtaImgUndefined ≠ espOtaImgInvalid by decide)
      (show espOtaImgUndefined ≠ espOtaImgAborted by decide), ?_,
    slotOf_eq hslot ?_ hmod, fun m hm => ?_, fun m hm => ?_, fun k hk => ?_⟩
  · omega
  · exact hpos.trans_le hge
  · exact hpos.trans_le hge
  · exact ⟨active, ⟨hvalid, hgreatest.unique hm⟩, ne_other active⟩
  · exact (hgreatest.2 hm).trans hge
  · exact hless.le.trans (Nat.add_le_add_right (hk _ hgreatest.1) _)

/-- Without a valid entry, the first number of the slot goes into the first sector. -/
theorem newer_of_empty (hb : b.Documented) {slot : Fin 16} (hslot : slot < getOtaPartitionCount t)
    (hempty : seqs b o = ∅) :
    Newer t b o slot 0 (writtenEntry b { o 0 with otaState := espOtaImgUndefined }
      ((AppSubtype.ota slot).subTypeId + 1)) := by
  have hle := getOtaPartitionCount_le t
  have hseq : ((AppSubtype.ota slot).subTypeId + 1).toNat = slot.val + 1 := by
    show (slot.val % 2 ^ 32 + 1) % 2 ^ 32 = slot.val + 1
    omega
  have hnone (m : Nat) (hm : m ∈ seqs b o) : False :=
    Set.eq_empty_iff_forall_notMem.mp hempty m hm
  refine ⟨valid_writtenEntry hb _ (ne_max_of_lt ?_)
      (show espOtaImgUndefined ≠ espOtaImgInvalid by decide)
      (show espOtaImgUndefined ≠ espOtaImgAborted by decide), ?_,
    slotOf_eq hslot ?_ (congrArg (· % getOtaPartitionCount t) hseq),
    fun m hm => (hnone m hm.1).elim, fun m hm => (hnone m hm).elim, fun k _ => ?_⟩
  · rw [hseq]
    omega
  · exact hseq ▸ Nat.succ_pos _
  · exact hseq ▸ Nat.succ_pos _
  · show ((AppSubtype.ota slot).subTypeId + 1).toNat ≤ _
    rw [hseq]
    omega

/-- `esp_rewrite_ota_data` overwrites a sector that does not count with such an entry. -/
theorem espRewriteOtaData_spec (hb : b.Documented) {slot : Fin 16}
    (hslot : slot < getOtaPartitionCount t) (hroom : Roomy t b o) {e : SetBootEnv}
    (hlegal : e.Legal b) (hmapped : e.mapped = true) :
    ∃ sec entry, Newer t b o slot sec entry
      ∧ Records.Left b.otaSelectValid o sec entry (espRewriteOtaData t b o (.ota slot) e).1
      ∧ ((espRewriteOtaData t b o (.ota slot) e).2 = .returned espOk →
        (espRewriteOtaData t b o (.ota slot) e).1 = Function.update o sec entry)
      ∧ (espRewriteOtaData t b o (.ota slot) e).2 ≠ .stuck := by
  have hle := getOtaPartitionCount_le t
  have hid : (AppSubtype.ota slot).subTypeId.toNat = slot.val := by
    show slot.val % 2 ^ 32 = slot.val
    omega
  unfold espRewriteOtaData
  dsimp only
  rw [hmapped, if_neg (by decide), hid, if_neg (by omega)]
  cases hactive : b.getActiveOtadata o with
  | some active =>
    obtain ⟨seq, hloop, hnewer⟩ := newer_of_active hb hslot hroom hactive
    dsimp only
    rw [hloop]
    exact ⟨_, _, hnewer, rewriteOtaSeq_left hb o _ seq _ hlegal.erase hlegal.write⟩
  | none =>
    have hempty := active_none hb hactive
    exact ⟨0, _, newer_of_empty hb hslot hempty,
      rewriteOtaSeq_left hb o _ _ 0 hlegal.erase hlegal.write⟩

/-- Once it is written, the slot boots. -/
theorem Newer.boot_written (hb : b.Documented) {slot : Fin 16} {sec : Fin 2} {entry : OtaSelectEntry}
    (h : Newer t b o slot sec entry) (hslot : slot < getOtaPartitionCount t) :
    espOtaGetBootPartition t b (Function.update o sec entry) = some (.ota slot) := by
  rw [boot_of_isGreatest hb (by omega) (Records.isGreatest_update_newer h.newer h.valid), h.slot]

/-- Whatever its overwriting leaves, the partition from before boots, or the slot does. -/
theorem Newer.boot (hb : b.Documented) {slot : Fin 16} {sec : Fin 2} {entry : OtaSelectEntry}
    {o' : Otadata} (h : Newer t b o slot sec entry) (hslot : slot < getOtaPartitionCount t)
    (hleft : Records.Left b.otaSelectValid o sec entry o') :
    espOtaGetBootPartition t b o' = espOtaGetBootPartition t b o
      ∨ espOtaGetBootPartition t b o' = some (.ota slot) := by
  have hcount : 0 < getOtaPartitionCount t := by omega
  have hnew (hgreatest : IsGreatest (seqs b o') entry.otaSeq.toNat) :
      espOtaGetBootPartition t b o' = some (.ota slot) := by
    rw [boot_of_isGreatest hb hcount hgreatest, h.slot]
  rcases boot_cases hb o with ⟨seq, hseq⟩ | hempty
  · obtain ⟨i, hi, hne⟩ := h.spare _ hseq
    rcases hleft.isGreatest hseq hi hne h.valid (h.newer _ hseq.1) with hold | hgreatest
    · rw [boot_of_isGreatest hb hcount hold, boot_of_isGreatest hb hcount hseq]
      exact Or.inl rfl
    · exact Or.inr (hnew hgreatest)
  · rcases hleft.isGreatest_of_empty hempty h.valid with hold | hgreatest
    · rw [boot_of_empty hb hold, boot_of_empty hb hempty]
      exact Or.inl rfl
    · exact Or.inr (hnew hgreatest)

/-- There is no slot beyond the count. -/
theorem setBoot_outside (b : BootloaderCommon) (o : Otadata) {slot : Fin 16}
    (hslot : getOtaPartitionCount t ≤ slot) (verified : Bool) (e : SetBootEnv) :
    ∃ code, code ≠ espOk
      ∧ espOtaSetBootPartition t b o (some (.ota slot)) verified e = (o, .returned code) := by
  have hfactory : AppSubtype.ota slot ≠ .factory := AppSubtype.noConfusion
  have hid : (AppSubtype.ota slot).subTypeId.toNat = slot.val := by
    show slot.val % 2 ^ 32 = slot.val
    omega
  unfold espOtaSetBootPartition espRewriteOtaData
  dsimp only
  rw [if_pos hfactory, hid, if_pos hslot]
  split_ifs
  · exact ⟨_, by decide, rfl⟩
  · exact ⟨_, by decide, rfl⟩
  · exact ⟨_, by decide, rfl⟩

/-- A refusal changes nothing; else the image was verified, and the entry is overwritten. -/
theorem setBoot_cases (hb : b.Documented) {slot : Fin 16} (hslot : slot < getOtaPartitionCount t)
    (hroom : Roomy t b o) (verified : Bool) {e : SetBootEnv} (hlegal : e.Legal b) :
    (∃ code, code ≠ espOk
        ∧ espOtaSetBootPartition t b o (some (.ota slot)) verified e = (o, .returned code))
      ∨ verified = true ∧ ∃ sec entry, Newer t b o slot sec entry
        ∧ Records.Left b.otaSelectValid o sec entry
          (espOtaSetBootPartition t b o (some (.ota slot)) verified e).1
        ∧ ((espOtaSetBootPartition t b o (some (.ota slot)) verified e).2 = .returned espOk →
          (espOtaSetBootPartition t b o (some (.ota slot)) verified e).1
            = Function.update o sec entry)
        ∧ (espOtaSetBootPartition t b o (some (.ota slot)) verified e).2 ≠ .stuck := by
  have hfactory : AppSubtype.ota slot ≠ .factory := AppSubtype.noConfusion
  unfold espOtaSetBootPartition
  dsimp only
  rw [if_pos hfactory]
  cases verified with
  | false => exact Or.inl ⟨_, by decide, if_pos (by decide)⟩
  | true =>
    rw [if_neg (by decide)]
    cases hmapped : e.mapped with
    | false =>
      refine Or.inl ⟨espErrNotFound, by decide, ?_⟩
      unfold espRewriteOtaData
      dsimp only
      rw [hmapped]
      rfl
    | true => exact Or.inr ⟨rfl, espRewriteOtaData_spec hb hslot hroom hlegal hmapped⟩

/-- The factory partition boots from an erased `otadata`. -/
theorem setBoot_factory (hb : b.Documented) (hfactory : AppSubtype.factory ∈ t) (o : Otadata)
    (verified : Bool) {e : SetBootEnv} (hdone : e.eraseAll = .done) :
    (espOtaSetBootPartition t b o (some .factory) verified e).1 = o
      ∨ verified = true
        ∧ seqs b (espOtaSetBootPartition t b o (some .factory) verified e).1 = ∅
        ∧ espOtaGetBootPartition t b (espOtaSetBootPartition t b o (some .factory) verified e).1
          = some .factory := by
  have herased : seqs b (fun _ => erasedEntry) = ∅ := by
    refine Set.eq_empty_iff_forall_notMem.mpr ?_
    rintro n ⟨i, hi, -⟩
    exact Bool.false_ne_true ((invalid_erasedEntry hb).symm.trans hi)
  have hdefault : findDefaultBootPartition t = some .factory := by
    unfold findDefaultBootPartition
    rw [List.append_assoc, List.singleton_append, List.findSome?_cons, findFirst_of_mem hfactory]
  unfold espOtaSetBootPartition
  dsimp only
  rw [hdone]
  split_ifs with hverified hmapped
  · exact absurd rfl hmapped
  · exact Or.inr ⟨hverified, herased, (boot_of_empty hb herased).trans hdefault⟩
  · exact Or.inl rfl
  · exact Or.inl rfl

/-- A call that has returned `ESP_OK` has selected its slot. -/
theorem setBoot_selected (hb : b.Documented) {slot : Fin 16} (hslot : slot < getOtaPartitionCount t)
    (hroom : Roomy t b o) (verified : Bool) {e : SetBootEnv} (hlegal : e.Legal b) {o' : Otadata}
    (hset : espOtaSetBootPartition t b o (some (.ota slot)) verified e = (o', .returned espOk)) :
    espOtaGetBootPartition t b o' = some (.ota slot) := by
  have hcases := setBoot_cases hb hslot hroom verified hlegal
  rw [hset] at hcases
  rcases hcases with ⟨code, hcode, heq⟩ | ⟨-, sec, entry, hnewer, -, hok, -⟩
  · exact absurd (Outcome.returned.inj (Prod.mk.inj heq).2).symm hcode
  · rw [show o' = _ from hok rfl]
    exact hnewer.boot_written hb hslot

/-- **`esp_ota_set_boot_partition` is atomic.** Whatever the flash does, and wherever the power is
cut: the partition from before boots or the selected one, and the selected one when the call has
returned `ESP_OK`. The loop for the number always ends. -/
theorem setBoot_atomic (hb : b.Documented) {slot : Fin 16} (hslot : slot < getOtaPartitionCount t)
    (hroom : Roomy t b o) (verified : Bool) {e : SetBootEnv} (hlegal : e.Legal b)
    {o' : Otadata} {ret : Outcome}
    (hset : espOtaSetBootPartition t b o (some (.ota slot)) verified e = (o', ret)) :
    (espOtaGetBootPartition t b o' = espOtaGetBootPartition t b o
        ∨ espOtaGetBootPartition t b o' = some (.ota slot))
      ∧ (ret = .returned espOk → espOtaGetBootPartition t b o' = some (.ota slot))
      ∧ ret ≠ .stuck := by
  have hcases := setBoot_cases hb hslot hroom verified hlegal
  have hselected : ret = .returned espOk → espOtaGetBootPartition t b o' = some (.ota slot) :=
    fun hok => setBoot_selected hb hslot hroom verified hlegal (hok ▸ hset)
  rw [hset] at hcases
  rcases hcases with ⟨code, -, heq⟩ | ⟨-, sec, entry, hnewer, hleft, -, hstuck⟩
  · obtain ⟨rfl, rfl⟩ := Prod.mk.inj heq
    exact ⟨Or.inl rfl, hselected, Outcome.noConfusion⟩
  · exact ⟨hnewer.boot hb hslot hleft, hselected, hstuck⟩

/-! ## The functions of the bootloader -/

/-- `n` bits of the CRC-32 of the ROM. -/
def crcBits : Nat → UInt32 → UInt32
  | 0, crc => crc
  | n + 1, crc => crcBits n (if crc &&& 1 = 1 then (crc >>> 1) ^^^ 0xEDB88320 else crc >>> 1)

def sampleInvalid (e : OtaSelectEntry) : Bool :=
  e.otaSeq == 0xFFFFFFFF || (e.otaState == espOtaImgInvalid || e.otaState == espOtaImgAborted)

def sampleValid (e : OtaSelectEntry) : Bool :=
  !sampleInvalid e && e.crc == ~~~crcBits 32 e.otaSeq

/-- Of two entries with one number the first is selected. -/
def sampleSelect (o : Otadata) (v : Fin 2 → Bool) (max : Bool) : Option (Fin 2) :=
  if v 0 then
    if v 1 then
      if max then if (o 1).otaSeq ≤ (o 0).otaSeq then some 0 else some 1
      else if (o 0).otaSeq ≤ (o 1).otaSeq then some 0 else some 1
    else some 0
  else if v 1 then some 1 else none

/-- The bootloader's functions, with the CRC-32 of the number, begun with all ones. -/
def sampleCommon : BootloaderCommon where
  otaSelectCrc e := ~~~crcBits 32 e.otaSeq
  otaSelectInvalid := sampleInvalid
  otaSelectValid := sampleValid
  selectOtadata := sampleSelect
  getActiveOtadata o := sampleSelect o (fun i => sampleValid (o i)) true

theorem documented_sampleCommon : sampleCommon.Documented where
  crc e e' h := congrArg (fun seq => ~~~crcBits 32 seq) h
  invalid e := by
    show sampleInvalid e = true ↔ _
    unfold sampleInvalid
    rw [Bool.or_eq_true, Bool.or_eq_true, beq_iff_eq, beq_iff_eq, beq_iff_eq]
  valid e := by
    show sampleValid e = true ↔ sampleInvalid e = false ∧ _
    unfold sampleValid
    rw [Bool.and_eq_true, Bool.not_eq_true', beq_iff_eq]
    rfl
  select_some o v i h := by
    have h : sampleSelect o v true = some i := h
    unfold sampleSelect at h
    rw [if_pos rfl] at h
    split_ifs at h with h0 h1 hle
    · cases h
      exact ⟨h0, Fin.forall_fin_two.mpr ⟨fun _ => UInt32.le_refl _, fun _ => hle⟩⟩
    · cases h
      exact ⟨h1, Fin.forall_fin_two.mpr
        ⟨fun _ => (UInt32.le_total _ _).resolve_left hle, fun _ => UInt32.le_refl _⟩⟩
    · cases h
      exact ⟨h0, Fin.forall_fin_two.mpr ⟨fun _ => UInt32.le_refl _, fun hv => absurd hv ‹_›⟩⟩
    · cases h
      exact ⟨‹_›, Fin.forall_fin_two.mpr ⟨fun hv => absurd hv h0, fun _ => UInt32.le_refl _⟩⟩
  select_none o v h := by
    have h : sampleSelect o v true = none := h
    unfold sampleSelect at h
    rw [if_pos rfl] at h
    split_ifs at h with h0
    exact Fin.forall_fin_two.mpr
      ⟨Bool.eq_false_of_not_eq_true h0, Bool.eq_false_of_not_eq_true ‹_›⟩
  active o := rfl

abbrev slot0 : AppSubtype := .ota 0

abbrev slot1 : AppSubtype := .ota 1

/-- The number 1 in the first sector. -/
def sampleOtadata : Otadata
  | 0 => ⟨1, espOtaImgUndefined, 0x4743989A⟩
  | 1 => erasedEntry

theorem roomy_sampleOtadata : Roomy [slot0, slot1] sampleCommon sampleOtadata := by
  have hfirst : (sampleOtadata 0).otaSeq.toNat = 1 := rfl
  rintro n ⟨i, hi, rfl⟩
  revert hi i
  refine Fin.forall_fin_two.mpr ⟨fun _ => ?_, fun hi => absurd hi (by decide)⟩
  dsimp only
  rw [hfirst]
  decide

/-- Half of a number is written. -/
def halfEntry : OtaSelectEntry := ⟨0xFFFF0002, 0xFFFFFFFF, 0xFFFFFFFF⟩

/-- The power goes. -/
def sampleCut : SetBootEnv where
  write := .cut (.torn halfEntry)

theorem legal_sampleCut : sampleCut.Legal sampleCommon := by
  have hinvalid : sampleCommon.otaSelectValid halfEntry = false := by decide +kernel
  exact ⟨trivial, hinvalid⟩

theorem setBoot_atomic_cut :
    (espOtaSetBootPartition [slot0, slot1] sampleCommon sampleOtadata (some slot1) true
        sampleCut).2 = .off
      ∧ (espOtaGetBootPartition [slot0, slot1] sampleCommon
          (espOtaSetBootPartition [slot0, slot1] sampleCommon sampleOtadata (some slot1) true
            sampleCut).1
          = espOtaGetBootPartition [slot0, slot1] sampleCommon sampleOtadata
        ∨ espOtaGetBootPartition [slot0, slot1] sampleCommon
          (espOtaSetBootPartition [slot0, slot1] sampleCommon sampleOtadata (some slot1) true
            sampleCut).1 = some slot1) :=
  ⟨by decide +kernel,
    (setBoot_atomic documented_sampleCommon (by decide) roomy_sampleOtadata true legal_sampleCut
      (Prod.mk.eta).symm).1⟩

end ControlFan.Ota
