import ControlFan.Lib.Queue
import ControlFan.Ota.Rollback

/-!
# Ota — a device that is updated, reset and cut off

The app partitions, `otadata` and the open updates of `app_update/esp_ota_ops.c`, under any order of
its calls and with the power cut at any point of any of them. After a reset the bootloader starts
the partition that `esp_ota_get_boot_partition` names, when its image verifies; else it starts
whatever it finds.

* **`Board`**, **`Device`** — what does not change and what does;
* **`Device.step`** — a call, or a reset;
* **`Device.Safe`** — the partition that boots verifies, and the app that runs is the one that was
  loaded;
* **`run_safe`** — over every run this stays so, as long as nobody updates the partition that is to
  boot.
-/

namespace ControlFan.Ota

open Machine Queue

/-! ## The device -/

/-- The partition table, the bootloader's functions, the flash, and `esp_image_verify` of what a
partition holds. -/
structure Board where
  table : Table
  common : BootloaderCommon
  part : AppSubtype → Partition
  encrypted : Bool
  verify : List UInt8 → Bool

def Board.boot (bd : Board) (o : Otadata) : Option AppSubtype :=
  espOtaGetBootPartition bd.table bd.common o

/-- An entry of `s_ota_ops_entries_head`. -/
structure OpenUpdate where
  handle : UInt32
  part : AppSubtype
  entry : WriteEntry
  deriving DecidableEq, Repr

/-- The flash, and what is gone after a reset: the running app, its open updates. The app runs from
the flash; `loaded` is what its partition held when it was started. -/
structure Device where
  on : Bool
  otadata : Otadata
  flash : AppSubtype → List UInt8
  running : AppSubtype
  loaded : List UInt8
  updates : List OpenUpdate := []
  lastHandle : UInt32 := 0

/-- The bootloader: the partition that is to boot, or else `fallback`. -/
def Board.started (bd : Board) (d : Device) (fallback : AppSubtype) : AppSubtype :=
  match bd.boot d.otadata with
  | some p => if bd.verify (d.flash p) then p else fallback
  | none => fallback

def Device.reset (bd : Board) (d : Device) (fallback : AppSubtype) : Device where
  on := true
  otadata := d.otadata
  flash := d.flash
  running := bd.started d fallback
  loaded := d.flash (bd.started d fallback)

/-- A partition is erased or written. -/
def Device.program (d : Device) (p : AppSubtype) (content : List UInt8) : Device :=
  { d with flash := Function.update d.flash p content }

/-! ## The calls -/

def AppSubtype.isOta : AppSubtype → Bool
  | .ota _ => true
  | .factory | .test => false

def spiFlashSecSize : UInt32 := 4096
def otaSizeUnknown : UInt32 := 0xFFFFFFFF

/-- `esp_partition_erase_range` from the start of the partition. -/
def partitionErase (part : Partition) (content : List UInt8) (size : Nat)
    (a : Answer (List UInt8)) : List UInt8 × Outcome :=
  if part.size < size ∨ size % spiFlashSecSize.toNat ≠ 0 then
    (content, .returned espErrInvalidSize)
  else
    match a with
    | .done => (List.replicate size erasedByte ++ content.drop size, .returned espOk)
    | .failed code _ rest => (rest, .returned code)
    | .cut rest => (rest, .off)

/-- The bytes that `esp_ota_begin` erases, and those it notes as erased. -/
def eraseSize (part : Partition) (imageSize : UInt32) : Nat × Nat :=
  if imageSize = 0 ∨ imageSize = otaSizeUnknown then (part.size, part.size)
  else
    (((imageSize + spiFlashSecSize - 1) &&& ~~~(spiFlashSecSize - 1)).toNat, imageSize.toNat)

/-- `esp_ota_begin`. -/
def Device.beginUpdate (bd : Board) (d : Device) (p : Option AppSubtype) (imageSize : UInt32)
    (erase : Answer (List UInt8)) (alloc : Bool) : Device × Outcome :=
  match p with
  | none => (d, .returned (espOtaBegin .invalidArg))
  | some p =>
    if p ∉ bd.table then (d, .returned (espOtaBegin .notFound))
    else if ¬ p.isOta then (d, .returned (espOtaBegin .invalidArg))
    else if p = d.running then (d, .returned (espOtaBegin .partitionConflict))
    else
      let (eraseSize, erasedSize) := eraseSize (bd.part p) imageSize
      let (content, ret) := partitionErase (bd.part p) (d.flash p) eraseSize erase
      let d := d.program p content
      if ret ≠ .returned espOk then (d, ret)
      else if ¬ alloc then (d, .returned (espOtaBegin .noMem))
      else
        let handle := d.lastHandle + 1
        ({ d with lastHandle := handle, updates := ⟨handle, p, { erasedSize }⟩ :: d.updates },
          .returned espOk)

/-- `esp_ota_write`. -/
def Device.write (bd : Board) (d : Device) (handle : UInt32) (data : List UInt8)
    (a₁ a₂ : Answer (List UInt8)) : Device × Outcome :=
  match d.updates.find? (·.handle == handle) with
  | none => (d, .returned espErrInvalidArg)
  | some u =>
    let (entry, content, ret) :=
      espOtaWriteBytes (bd.part u.part) bd.encrypted u.entry (d.flash u.part) data a₁ a₂
    ({ d.program u.part content with
        updates := updateFirst (·.handle == handle) ({ · with entry }) d.updates }, ret)

/-- `esp_ota_write_with_offset`. -/
def Device.writeWithOffset (bd : Board) (d : Device) (handle : UInt32) (data : List UInt8)
    (offset : Nat) (a : Answer (List UInt8)) : Device × Outcome :=
  match d.updates.find? (·.handle == handle) with
  | none => (d, .returned espErrInvalidArg)
  | some u =>
    if bd.encrypted ∧ data.length % 16 ≠ 0 then (d, .returned espErrInvalidArg)
    else
      let (content, ret) := partitionWrite (bd.part u.part) (d.flash u.part) offset data a
      let wroteSize :=
        if ret = .returned espOk then u.entry.wroteSize + data.length else u.entry.wroteSize
      ({ d.program u.part content with
          updates := updateFirst (·.handle == handle)
            (fun u => { u with entry := { u.entry with wroteSize } }) d.updates }, ret)

/-- `esp_ota_end`. -/
def Device.endUpdate (bd : Board) (d : Device) (handle : UInt32) (a : Answer (List UInt8)) :
    Device × Outcome :=
  match takeFirst (·.handle == handle) d.updates with
  | none => (d, .returned espErrNotFound)
  | some (u, updates) =>
    let (content, ret) := espOtaEndBytes (bd.part u.part) bd.verify u.entry (d.flash u.part) a
    ({ d.program u.part content with updates }, ret)

/-- `esp_ota_set_boot_partition`. -/
def Device.setBoot (bd : Board) (d : Device) (p : Option AppSubtype) (e : SetBootEnv) :
    Device × Outcome :=
  let (otadata, ret) := espOtaSetBootPartition bd.table bd.common d.otadata p
    (p.any fun p => bd.verify (d.flash p)) e
  ({ d with otadata }, ret)

/-- `esp_ota_mark_app_valid_cancel_rollback` and `esp_ota_mark_app_invalid_rollback_and_reboot`. -/
def Device.workable (bd : Board) (d : Device) (valid : Bool) (e : WorkableEnv) : Device × Outcome :=
  let (otadata, ret) := espOtaCurrentOtaIsWorkable bd.table bd.common d.otadata
    (fun p => bd.verify (d.flash p)) valid e
  ({ d with otadata }, ret)

/-- `esp_ota_erase_last_boot_app_partition`: the partition, then the entry. -/
def Device.eraseLast (bd : Board) (d : Device) (mapped : Bool) (a : Answer (List UInt8))
    (sector : Answer Rest) : Device × Outcome :=
  if ¬ mapped then (d, .returned espFail)
  else
    match lastBootApp bd.table bd.common d.otadata d.running with
    | none => (d, .returned espFail)
    | some (sec, p) =>
      let (content, ret) := partitionErase (bd.part p) (d.flash p) (bd.part p).size a
      let d := d.program p content
      if ret ≠ .returned espOk then (d, ret)
      else
        let left (rest : Rest) : Device :=
          { d with
            otadata := Function.update d.otadata sec (rest.entry (d.otadata sec) erasedEntry) }
        match sector with
        | .done => (left .after, .returned espOk)
        | .failed code _ rest => (left rest, .returned code)
        | .cut rest => (left rest, .off)

inductive Request where
  | beginUpdate (p : Option AppSubtype) (imageSize : UInt32) (erase : Answer (List UInt8))
    (alloc : Bool)
  | write (handle : UInt32) (data : List UInt8) (a₁ a₂ : Answer (List UInt8))
  | writeWithOffset (handle : UInt32) (data : List UInt8) (offset : Nat) (a : Answer (List UInt8))
  | endUpdate (handle : UInt32) (a : Answer (List UInt8))
  | setBoot (p : Option AppSubtype) (e : SetBootEnv)
  | workable (valid : Bool) (e : WorkableEnv)
  | eraseLast (mapped : Bool) (a : Answer (List UInt8)) (sector : Answer Rest)

def Device.call (bd : Board) (d : Device) : Request → Device × Outcome
  | .beginUpdate p imageSize erase alloc => d.beginUpdate bd p imageSize erase alloc
  | .write handle data a₁ a₂ => d.write bd handle data a₁ a₂
  | .writeWithOffset handle data offset a => d.writeWithOffset bd handle data offset a
  | .endUpdate handle a => d.endUpdate bd handle a
  | .setBoot p e => d.setBoot bd p e
  | .workable valid e => d.workable bd valid e
  | .eraseLast mapped a sector => d.eraseLast bd mapped a sector

inductive Input where
  | reset (fallback : AppSubtype)
  | call (r : Request)

/-- One step. A device that is off only starts again. -/
def Device.step (bd : Board) (d : Device) : Input → Device
  | .reset fallback => d.reset bd fallback
  | .call r =>
    if ¬ d.on then d
    else
      let (d, ret) := d.call bd r
      if ret = .off then { d with on := false } else d

/-! ## What has to be kept -/

/-- A leftover in `otadata` does not pass for valid, and a partition is one of the table. -/
def Request.Legal (bd : Board) : Request → Prop
  | .setBoot p e => e.Legal bd.common ∧ ∀ q ∈ p, q ∈ bd.table
  | .workable _ e =>
    e.erase.Legal (Rest.Legal bd.common) ∧ e.write.Legal (Rest.Legal bd.common)
  | .eraseLast _ _ sector => sector.Legal (Rest.Legal bd.common)
  | .beginUpdate _ _ _ _ | .write _ _ _ _ | .writeWithOffset _ _ _ _ | .endUpdate _ _ => True

/-- What the calls do not check. The partition that is to boot is neither updated nor erased, and
none is selected or fallen back to that is being updated; the entry in force is written again only
with another app behind it; the test partition is not selected, which would be slot 0, and the
factory partition not under a failing flash. -/
def Request.Careful (bd : Board) (d : Device) : Request → Prop
  | .beginUpdate p _ _ _ => ∀ q ∈ p, bd.boot d.otadata ≠ some q
  | .setBoot p e => ∀ q ∈ p, q ≠ .test ∧ (q = .factory → e.eraseAll = .done)
      ∧ ∀ u ∈ d.updates, u.part ≠ q
  | .workable valid e => (valid = true ∧ e.erase = .done ∧ e.write = .done)
      ∨ d.updates = [] ∧ (valid = true → espOtaCheckRollbackIsPossible bd.table bd.common d.otadata
        fun p => bd.verify (d.flash p))
  | .eraseLast _ _ _ => ∀ s ∈ lastBootApp bd.table bd.common d.otadata d.running,
      bd.boot d.otadata ≠ some s.2
  | .write _ _ _ _ | .writeWithOffset _ _ _ _ | .endUpdate _ _ => True

instance (bd : Board) (d : Device) : (r : Request) → Decidable (r.Careful bd d)
  | .beginUpdate p _ _ _ => inferInstanceAs (Decidable (∀ q ∈ p, bd.boot d.otadata ≠ some q))
  | .setBoot p e => inferInstanceAs (Decidable (∀ q ∈ p, q ≠ .test
      ∧ (q = .factory → e.eraseAll = .done) ∧ ∀ u ∈ d.updates, u.part ≠ q))
  | .workable valid e => inferInstanceAs (Decidable ((valid = true ∧ e.erase = .done ∧ e.write = .done)
      ∨ d.updates = [] ∧ (valid = true → espOtaCheckRollbackIsPossible bd.table bd.common d.otadata
        fun p => bd.verify (d.flash p))))
  | .eraseLast _ _ _ => inferInstanceAs (Decidable (∀ s ∈ lastBootApp bd.table bd.common d.otadata
      d.running, bd.boot d.otadata ≠ some s.2))
  | .write _ _ _ _ | .writeWithOffset _ _ _ _ | .endUpdate _ _ => inferInstanceAs (Decidable True)

def Input.Legal (bd : Board) : Input → Prop
  | .reset _ => True
  | .call r => r.Legal bd

def Input.Careful (bd : Board) (d : Device) : Input → Prop
  | .reset _ => True
  | .call r => r.Careful bd d

instance (bd : Board) (d : Device) : (i : Input) → Decidable (i.Careful bd d)
  | .reset _ => inferInstanceAs (Decidable True)
  | .call r => inferInstanceAs (Decidable (r.Careful bd d))

/-- A partition that may be written. -/
def Device.Apart (bd : Board) (d : Device) (p : AppSubtype) : Prop :=
  p ≠ d.running ∧ bd.boot d.otadata ≠ some p

/-- The invariant. The numbers in `otadata` are at most `k`; the partition that is to boot holds an
image that verifies; no open update writes into it or into the one that runs, and the app that runs
is still the one that verified when it was loaded. -/
structure Device.Safe (bd : Board) (k : Nat) (d : Device) : Prop where
  numbered : ∀ n ∈ seqs bd.common d.otadata, 0 < n ∧ n ≤ k
  bootable : ∃ p, bd.boot d.otadata = some p ∧ bd.verify (d.flash p) = true
  apart : d.on = true → ∀ u ∈ d.updates, d.Apart bd u.part
  loaded : d.on = true → d.flash d.running = d.loaded ∧ bd.verify d.loaded = true

/-- A call beside `otadata`, the partition that is to boot and the one that runs. -/
structure Device.Aside (bd : Board) (d d' : Device) : Prop where
  on : d'.on = d.on
  otadata : d'.otadata = d.otadata
  running : d'.running = d.running
  loaded : d'.loaded = d.loaded
  flash : ∀ p, p = d.running ∨ bd.boot d.otadata = some p → d'.flash p = d.flash p
  updates : ∀ u ∈ d'.updates, d.Apart bd u.part

variable {bd : Board} {k : Nat} {d d' : Device}

theorem Device.Safe.mono (h : d.Safe bd k) {k' : Nat} (hk : k ≤ k') : d.Safe bd k' :=
  { h with numbered := fun n hn => ⟨(h.numbered n hn).1, (h.numbered n hn).2.trans hk⟩ }

theorem Device.Safe.off (h : d.Safe bd k) : ({ d with on := false } : Device).Safe bd k :=
  ⟨h.numbered, h.bootable, fun h => Bool.noConfusion h, fun h => Bool.noConfusion h⟩

theorem Device.Safe.aside (h : d.Safe bd k) (hd : d.Aside bd d') : d'.Safe bd k := by
  obtain ⟨p, hboot, hverify⟩ := h.bootable
  refine ⟨?_, ⟨p, ?_, ?_⟩, fun _ => ?_, fun hon => ?_⟩
  · rw [hd.otadata]
    exact h.numbered
  · rw [hd.otadata]
    exact hboot
  · rw [hd.flash p (Or.inr hboot)]
    exact hverify
  · unfold Device.Apart
    rw [hd.otadata, hd.running]
    exact hd.updates
  · rw [hd.running, hd.loaded, hd.flash _ (Or.inl rfl)]
    exact h.loaded (hd.on ▸ hon)

/-- A reset starts the partition that is to boot. -/
theorem Device.Safe.reset (h : d.Safe bd k) (fallback : AppSubtype) :
    (d.reset bd fallback).Safe bd k ∧ bd.boot d.otadata = some (d.reset bd fallback).running := by
  obtain ⟨p, hboot, hverify⟩ := h.bootable
  have hstarted : bd.started d fallback = p := by
    unfold Board.started
    rw [hboot]
    exact if_pos hverify
  refine ⟨⟨h.numbered, h.bootable, fun _ u hu => absurd hu List.not_mem_nil, fun _ => ⟨rfl, ?_⟩⟩, ?_⟩
  · show bd.verify (d.flash (bd.started d fallback)) = true
    rw [hstarted]
    exact hverify
  · show bd.boot d.otadata = some (bd.started d fallback)
    rw [hstarted]
    exact hboot

/-! ## The calls keep it -/

/-- The programming of a partition that is neither to boot nor running. -/
theorem aside_program (p : AppSubtype) (content : List UInt8) (updates : List OpenUpdate)
    (lastHandle : UInt32) (hp : d.Apart bd p)
    (hupdates : ∀ u ∈ updates, d.Apart bd u.part) :
    d.Aside bd { d.program p content with updates, lastHandle } := by
  refine ⟨rfl, rfl, rfl, rfl, fun q hq => Function.update_of_ne ?_ _ _, hupdates⟩
  rintro rfl
  rcases hq with hrunning | hboot
  · exact hp.1 hrunning
  · exact hp.2 hboot

theorem aside_self
    (hupdates : ∀ u ∈ d.updates, d.Apart bd u.part) :
    d.Aside bd d :=
  ⟨rfl, rfl, rfl, rfl, fun _ _ => rfl, hupdates⟩

theorem aside_beginUpdate (hupdates : ∀ u ∈ d.updates, d.Apart bd u.part) {p : Option AppSubtype}
    (hp : ∀ q ∈ p, bd.boot d.otadata ≠ some q) (imageSize : UInt32)
    (erase : Answer (List UInt8)) (alloc : Bool) :
    d.Aside bd (d.beginUpdate bd p imageSize erase alloc).1 := by
  cases p with
  | none => exact aside_self hupdates
  | some p =>
    unfold Device.beginUpdate
    dsimp only
    split_ifs with htable hota hrunning
    · exact aside_self hupdates
    · exact aside_program p _ d.updates d.lastHandle ⟨hrunning, hp p rfl⟩ hupdates
    · exact aside_program p _ _ _ ⟨hrunning, hp p rfl⟩
        (List.forall_mem_cons.mpr ⟨⟨hrunning, hp p rfl⟩, hupdates⟩)
    · exact aside_program p _ d.updates d.lastHandle ⟨hrunning, hp p rfl⟩ hupdates
    · exact aside_self hupdates
    · exact aside_self hupdates

theorem aside_write (hupdates : ∀ u ∈ d.updates, d.Apart bd u.part) (handle : UInt32)
    (data : List UInt8) (a₁ a₂ : Answer (List UInt8)) :
    d.Aside bd (d.write bd handle data a₁ a₂).1 := by
  unfold Device.write
  cases hfind : d.updates.find? (·.handle == handle) with
  | none => exact aside_self hupdates
  | some u =>
    have hu : d.Apart bd u.part := hupdates u (List.mem_of_find?_eq_some hfind)
    exact aside_program u.part _ _ d.lastHandle hu
      (forall_updateFirst hupdates fun v hv _ => hupdates v hv)

theorem aside_writeWithOffset (hupdates : ∀ u ∈ d.updates, d.Apart bd u.part) (handle : UInt32)
    (data : List UInt8) (offset : Nat) (a : Answer (List UInt8)) :
    d.Aside bd (d.writeWithOffset bd handle data offset a).1 := by
  unfold Device.writeWithOffset
  cases hfind : d.updates.find? (·.handle == handle) with
  | none => exact aside_self hupdates
  | some u =>
    have hu : d.Apart bd u.part := hupdates u (List.mem_of_find?_eq_some hfind)
    dsimp only
    split_ifs
    · exact aside_self hupdates
    · exact aside_program u.part _ _ d.lastHandle hu
        (forall_updateFirst hupdates fun v hv _ => hupdates v hv)
    · exact aside_program u.part _ _ d.lastHandle hu
        (forall_updateFirst hupdates fun v hv _ => hupdates v hv)

theorem aside_endUpdate (hupdates : ∀ u ∈ d.updates, d.Apart bd u.part) (handle : UInt32)
    (a : Answer (List UInt8)) : d.Aside bd (d.endUpdate bd handle a).1 := by
  unfold Device.endUpdate
  cases htake : takeFirst (·.handle == handle) d.updates with
  | none => exact aside_self hupdates
  | some taken =>
    obtain ⟨u, rest⟩ := taken
    have hmem (v : OpenUpdate) : v ∈ d.updates ↔ v ∈ u :: rest := (takeFirst_perm htake).mem_iff
    exact aside_program u.part _ _ d.lastHandle (hupdates u ((hmem u).mpr List.mem_cons_self))
      fun v hv => hupdates v ((hmem v).mpr (List.mem_cons_of_mem u hv))

/-- A change of `otadata` only. -/
theorem Device.Safe.select (h : d.Safe bd k) {o : Otadata} {k' : Nat}
    (hnumbered : ∀ n ∈ seqs bd.common o, 0 < n ∧ n ≤ k')
    (hboot : ∃ p, bd.boot o = some p ∧ bd.verify (d.flash p) = true)
    (hupdates : d.on = true → ∀ u ∈ d.updates, bd.boot o ≠ some u.part) :
    ({ d with otadata := o } : Device).Safe bd k' :=
  ⟨hnumbered, hboot, fun hon u hu => ⟨(h.apart hon u hu).1, hupdates hon u hu⟩, h.loaded⟩

theorem roomy (hnumbered : ∀ n ∈ seqs bd.common d.otadata, 0 < n ∧ n ≤ k)
    (hk : k + 16 < 2 ^ 32 - 1) : Roomy bd.table bd.common d.otadata := fun n hn =>
  ⟨(hnumbered n hn).1, by
    have := (hnumbered n hn).2
    have := getOtaPartitionCount_le bd.table
    omega⟩

theorem setBoot_eq (bd : Board) (d : Device) (p : AppSubtype) (e : SetBootEnv) :
    d.setBoot bd (some p) e
      = ({ d with
            otadata := (espOtaSetBootPartition bd.table bd.common d.otadata (some p)
              (bd.verify (d.flash p)) e).1 },
          (espOtaSetBootPartition bd.table bd.common d.otadata (some p)
            (bd.verify (d.flash p)) e).2) := rfl

/-- The selection of a slot. -/
theorem safe_setBoot_ota (hb : bd.common.Documented) (h : d.Safe bd k) (hk : k + 16 < 2 ^ 32 - 1)
    {slot : Fin 16} {e : SetBootEnv} (hlegal : e.Legal bd.common)
    (hclosed : ∀ u ∈ d.updates, u.part ≠ .ota slot) :
    (d.setBoot bd (some (.ota slot)) e).1.Safe bd (k + 16) := by
  rw [setBoot_eq]
  rcases Nat.lt_or_ge slot (getOtaPartitionCount bd.table) with hslot | hslot
  · rcases setBoot_cases hb hslot (roomy h.numbered hk) (bd.verify (d.flash (.ota slot))) hlegal with
      ⟨code, -, heq⟩ | ⟨hverified, sec, entry, hnewer, hleft, -⟩
    · rw [heq]
      exact h.mono (Nat.le_add_right k 16)
    · have hboot := hnewer.boot hb hslot hleft
      refine h.select (fun n hn => ?_) ?_ fun hon u hu => ?_
      · have hle := getOtaPartitionCount_le bd.table
        have hbound := hnewer.bounded k fun m hm => (h.numbered m hm).2
        rcases hleft.numbers_subset n hn with hold | rfl
        · have := h.numbered n hold
          omega
        · exact ⟨hnewer.pos, hbound.trans (by omega)⟩
      · rcases hboot with hold | hnew
        · obtain ⟨p, hp, hverify⟩ := h.bootable
          exact ⟨p, hold.trans hp, hverify⟩
        · exact ⟨_, hnew, hverified⟩
      · rcases hboot with hold | hnew
        · intro hu'
          exact (h.apart hon u hu).2 (hold.symm.trans hu')
        · intro hu'
          exact hclosed u hu (Option.some.inj (hu'.symm.trans hnew))
  · obtain ⟨code, -, heq⟩ := setBoot_outside bd.common d.otadata hslot
      (bd.verify (d.flash (.ota slot))) e
    rw [heq]
    exact h.mono (Nat.le_add_right k 16)

theorem safe_setBoot (hb : bd.common.Documented) (h : d.Safe bd k) (hk : k + 16 < 2 ^ 32 - 1)
    {p : Option AppSubtype} {e : SetBootEnv} (hlegal : (Request.setBoot p e).Legal bd)
    (hcareful : (Request.setBoot p e).Careful bd d) : (d.setBoot bd p e).1.Safe bd (k + 16) := by
  cases p with
  | none => exact h.mono (Nat.le_add_right k 16)
  | some p =>
    obtain ⟨htest, hfactory, hclosed⟩ := hcareful p rfl
    cases p with
    | test => exact absurd rfl htest
    | ota slot => exact safe_setBoot_ota hb h hk hlegal.1 hclosed
    | factory =>
      rw [setBoot_eq]
      rcases setBoot_factory hb (hlegal.2 _ rfl) d.otadata (bd.verify (d.flash .factory))
        (hfactory rfl) with hsame | ⟨hverified, hempty, hboot⟩
      · rw [hsame]
        exact h.mono (Nat.le_add_right k 16)
      · refine h.select (fun n hn => ?_) ⟨_, hboot, hverified⟩ fun _ u hu hu' => ?_
        · rw [hempty] at hn
          exact absurd hn (Set.notMem_empty n)
        · exact hclosed u hu (Option.some.inj (hu'.symm.trans hboot))

theorem safe_workable (hb : bd.common.Documented) (h : d.Safe bd k) {valid : Bool}
    {e : WorkableEnv} (hlegal : (Request.workable valid e).Legal bd)
    (hcareful : (Request.workable valid e).Careful bd d) :
    (d.workable bd valid e).1.Safe bd k := by
  unfold Device.workable
  cases hworkable : espOtaCurrentOtaIsWorkable bd.table bd.common d.otadata
    (fun p => bd.verify (d.flash p)) valid e with
  | mk o ret =>
    dsimp only
    rcases workable_cases hb _ _ _ _ hlegal.1 hlegal.2 hworkable with
      hseqs | ⟨hlost, active, x, hactive, hx, rfl⟩
    · -- the numbers are the same, and so is the partition that boots
      have hboot : bd.boot o = bd.boot d.otadata := boot_congr hb hseqs
      refine h.select (by rw [hseqs]; exact h.numbered) ?_ fun hon u hu => ?_
      · obtain ⟨p, hp, hverify⟩ := h.bootable
        exact ⟨p, hboot.trans hp, hverify⟩
      · rw [hboot]
        exact (h.apart hon u hu).2
    · -- the entry in force is lost, with another app behind it
      have hother : d.updates = [] ∧ espOtaCheckRollbackIsPossible bd.table bd.common d.otadata
          fun p => bd.verify (d.flash p) := by
        rcases hcareful with ⟨hvalid, hdone⟩ | ⟨hnone, hpossible⟩
        · rcases hlost with ⟨-, hfail⟩ | ⟨hinvalid, -⟩
          · exact absurd hdone hfail
          · exact absurd (hvalid.symm.trans hinvalid) Bool.noConfusion
        · rcases hlost with ⟨hvalid, -⟩ | ⟨-, hpossible'⟩
          · exact ⟨hnone, hpossible hvalid⟩
          · exact ⟨hnone, hpossible'⟩
      refine h.select (fun n hn => ?_) (rollback_boots hb hother.2 hactive hx) fun _ u hu => ?_
      · exact h.numbered n (Records.numbers_update_invalid hx hn)
      · rw [hother.1] at hu
        exact absurd hu List.not_mem_nil

/-- The call that erases the other app erases a partition, and loses at most its entry. -/
theorem eraseLast_cases (hb : bd.common.Documented) {mapped : Bool} {a : Answer (List UInt8)}
    {sector : Answer Rest} (hlegal : (Request.eraseLast mapped a sector).Legal bd)
    (hcareful : (Request.eraseLast mapped a sector).Careful bd d) :
    (d.eraseLast bd mapped a sector).1 = d
      ∨ ∃ p content o, d.Apart bd p
        ∧ (d.eraseLast bd mapped a sector).1 = { d.program p content with otadata := o }
        ∧ seqs bd.common o ⊆ seqs bd.common d.otadata ∧ bd.boot o = bd.boot d.otadata := by
  unfold Device.eraseLast
  split_ifs with hmapped
  · cases hlast : lastBootApp bd.table bd.common d.otadata d.running with
    | none => exact Or.inl rfl
    | some found =>
      obtain ⟨sec, p⟩ := found
      obtain ⟨hrunning, hcount, active, hactive, rfl⟩ := lastBootApp_spec hlast
      have hapart : d.Apart bd p := ⟨hrunning, hcareful _ hlast⟩
      dsimp only
      split_ifs
      · exact Or.inr ⟨p, _, d.otadata, hapart, rfl, subset_rfl, rfl⟩
      · cases sector with
        | done =>
          exact Or.inr ⟨p, _, _, hapart, rfl, boot_spare hb hcount hactive .after trivial⟩
        | failed code hcode rest =>
          exact Or.inr ⟨p, _, _, hapart, rfl, boot_spare hb hcount hactive rest hlegal⟩
        | cut rest =>
          exact Or.inr ⟨p, _, _, hapart, rfl, boot_spare hb hcount hactive rest hlegal⟩
  · exact Or.inl rfl

theorem safe_eraseLast (hb : bd.common.Documented) (h : d.Safe bd k) (hon : d.on = true)
    {mapped : Bool} {a : Answer (List UInt8)} {sector : Answer Rest}
    (hlegal : (Request.eraseLast mapped a sector).Legal bd)
    (hcareful : (Request.eraseLast mapped a sector).Careful bd d) :
    (d.eraseLast bd mapped a sector).1.Safe bd k := by
  rcases eraseLast_cases hb hlegal hcareful with heq | ⟨p, content, o, hp, heq, hseqs, hboot⟩
  · rw [heq]
    exact h
  · have herased := h.aside (aside_program p content d.updates d.lastHandle hp (h.apart hon))
    rw [heq]
    refine herased.select (fun n hn => h.numbered n (hseqs hn)) ?_ fun _ u hu hu' => ?_
    · obtain ⟨q, hq, hverify⟩ := herased.bootable
      exact ⟨q, hboot.trans hq, hverify⟩
    · exact (h.apart hon u hu).2 (hboot.symm.trans hu')

/-- **Every step keeps the invariant.** -/
theorem safe_step (hb : bd.common.Documented) (h : d.Safe bd k) (hk : k + 16 < 2 ^ 32 - 1) {i : Input}
    (hlegal : i.Legal bd) (hcareful : i.Careful bd d) : (d.step bd i).Safe bd (k + 16) := by
  cases i with
  | reset fallback => exact (h.reset fallback).1.mono (Nat.le_add_right k 16)
  | call r =>
    rw [Device.step]
    split_ifs with hon
    · have hcall : (d.call bd r).1.Safe bd (k + 16) := by
        cases r with
        | beginUpdate p imageSize erase alloc =>
          exact (h.aside (aside_beginUpdate (h.apart hon) hcareful _ _ _)).mono (Nat.le_add_right k 16)
        | write handle data a₁ a₂ =>
          exact (h.aside (aside_write (h.apart hon) _ _ _ _)).mono (Nat.le_add_right k 16)
        | writeWithOffset handle data offset a =>
          exact (h.aside (aside_writeWithOffset (h.apart hon) _ _ _ _)).mono (Nat.le_add_right k 16)
        | endUpdate handle a =>
          exact (h.aside (aside_endUpdate (h.apart hon) _ _)).mono (Nat.le_add_right k 16)
        | setBoot p e => exact safe_setBoot hb h hk hlegal hcareful
        | workable valid e => exact (safe_workable hb h hlegal hcareful).mono (Nat.le_add_right k 16)
        | eraseLast mapped a sector =>
          exact (safe_eraseLast hb h hon hlegal hcareful).mono (Nat.le_add_right k 16)
      dsimp only
      split_ifs
      · exact hcall.off
      · exact hcall
    · exact h.mono (Nat.le_add_right k 16)

/-! ## Runs -/

def Board.run (bd : Board) (d : Device) (inputs : List Input) : Device :=
  (Machine.run (silent (Device.step bd)) d inputs).1

/-- Every call of the run is careful. -/
def Board.AllCareful (bd : Board) (d : Device) (inputs : List Input) : Prop :=
  AllSteps (silent (Device.step bd)) (fun d i => i.Careful bd d) d inputs

/-- Induction on the inputs. -/
theorem safe_run (hb : bd.common.Documented) (h : d.Safe bd k) {inputs : List Input}
    (hlegal : ∀ i ∈ inputs, i.Legal bd) (hcareful : bd.AllCareful d inputs)
    (hfew : k + 16 * inputs.length < 2 ^ 32 - 1) :
    (bd.run d inputs).Safe bd (k + 16 * inputs.length) := by
  induction inputs generalizing d k with
  | nil => exact h
  | cons i inputs ih =>
    rw [List.length_cons] at hfew ⊢
    obtain ⟨hi, hrest⟩ := List.forall_mem_cons.mp hlegal
    have hstep := safe_step hb h (by omega) hi hcareful.1
    have hend := ih hstep hrest hcareful.2 (by omega)
    rwa [show k + 16 * (inputs.length + 1) = k + 16 + 16 * inputs.length by omega]

/-- A board with two slots. An image is one that starts with its magic. -/
def sampleBoard : Board where
  table := [slot0, slot1]
  common := sampleCommon
  part := fun _ => ⟨8192, by decide, by decide⟩
  encrypted := false
  verify content := content.head? == some espImageHeaderMagic

/-- Slot 0 is to boot. -/
def sampleDevice : Device where
  on := false
  otadata := sampleOtadata
  flash p := if p = slot0 then [0xE9] else [0xE9, 1]
  running := slot0
  loaded := [0xE9]

theorem safe_sampleDevice : sampleDevice.Safe sampleBoard 1 where
  numbered := by
    rintro n ⟨i, hi, rfl⟩
    revert hi i
    exact Fin.forall_fin_two.mpr
      ⟨fun _ => ⟨Nat.one_pos, le_rfl⟩, fun hi => absurd hi (by decide)⟩
  bootable := ⟨slot0, by decide +kernel, by decide⟩
  apart := fun h => Bool.noConfusion h
  loaded := fun h => Bool.noConfusion h

end ControlFan.Ota
