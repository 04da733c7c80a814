import ControlFan.Ota.Session
import ControlFan.Lib.Machine

/-!
# Ota — the bytes of an image (`app_update/esp_ota_ops.c`)

`Ota.Session` counts the bytes that `esp_ota_write` writes. Here are the bytes themselves: what the
update partition holds, and what an operation leaves there that the flash refuses or that a power
cut ends.

* **`espOtaWriteBytes`**, **`espOtaEndBytes`** — the calls with their data;
* `espOtaWriteBytes_counts` — without the bytes they are `espOtaWrite` of the session;
* **`run_written`** — an image comes to the flash as it was sent, in whatever pieces it came.
-/

namespace ControlFan.Ota

open Machine

/-! ## The flash -/

/-- How a flash operation ends: done, with an error, or with the power cut. The last two leave
something in place of what they were to change. -/
inductive Answer (α : Type) where
  | done
  | failed (code : Int) (hok : code ≠ espOk) (rest : α)
  | cut (rest : α)
  deriving Repr

instance {α : Type} : (a : Answer α) → Decidable (a = .done)
  | .done => isTrue rfl
  | .failed .. => isFalse nofun
  | .cut _ => isFalse nofun

/-- How a call ends: it returns, the device goes off under it, or it loops for ever. -/
inductive Outcome where
  | returned (code : Int)
  | off
  | stuck
  deriving DecidableEq, Repr

def erasedByte : UInt8 := 0xFF

/-- Programming only clears bits. -/
def program (content : List UInt8) (offset : Nat) (data : List UInt8) : List UInt8 :=
  content.take offset ++ List.zipWith (· &&& ·) ((content.drop offset).take data.length) data
    ++ content.drop (offset + data.length)

/-- `esp_partition_write`. -/
def partitionWrite (part : Partition) (content : List UInt8) (offset : Nat) (data : List UInt8)
    (a : Answer (List UInt8)) : List UInt8 × Outcome :=
  if part.size < offset then (content, .returned espErrInvalidArg)
  else if part.size < offset + data.length then (content, .returned espErrInvalidSize)
  else
    match a with
    | .done => (program content offset data, .returned espOk)
    | .failed code _ rest => (rest, .returned code)
    | .cut rest => (rest, .off)

/-! ## Writing -/

/-- `ota_ops_entry_t`, with the begun bytes of `partial_data` and what stands behind them there. -/
structure WriteEntry where
  erasedSize : Nat
  wroteSize : Nat := 0
  partialData : List UInt8 := []
  fill : UInt8 := 0
  deriving DecidableEq, Repr

def writeRestBytes (part : Partition) (w : WriteEntry) (content data : List UInt8)
    (a : Answer (List UInt8)) : WriteEntry × List UInt8 × Outcome :=
  let (content, ret) := partitionWrite part content w.wroteSize data a
  if ret = .returned espOk then
    ({ w with wroteSize := w.wroteSize + data.length }, content, ret)
  else (w, content, ret)

def writeBlocksBytes (part : Partition) (w : WriteEntry) (content data : List UInt8)
    (a : Answer (List UInt8)) : WriteEntry × List UInt8 × Outcome :=
  let size := data.length - data.length % 16
  writeRestBytes part { w with partialData := data.drop size } content (data.take size) a

/-- A block that an earlier call has begun is filled up, and written once it is full. -/
def fillBlockBytes (part : Partition) (w : WriteEntry) (content data : List UInt8)
    (a₁ a₂ : Answer (List UInt8)) : WriteEntry × List UInt8 × Outcome :=
  let copied := data.take (16 - w.partialData.length)
  let w := { w with partialData := w.partialData ++ copied }
  if w.partialData.length ≠ 16 then (w, content, .returned espOk)
  else
    let (content, ret) := partitionWrite part content w.wroteSize w.partialData a₁
    if ret ≠ .returned espOk then (w, content, ret)
    else
      writeBlocksBytes part
        { w with partialData := [], fill := 0xFF, wroteSize := w.wroteSize + 16 }
        content (data.drop copied.length) a₂

/-- `esp_ota_write`; `a₁` answers the write of a filled-up block, `a₂` the last write. -/
def espOtaWriteBytes (part : Partition) (encrypted : Bool) (w : WriteEntry)
    (content data : List UInt8) (a₁ a₂ : Answer (List UInt8)) :
    WriteEntry × List UInt8 × Outcome :=
  if w.wroteSize = 0 ∧ w.partialData = [] ∧ data ≠ [] ∧ data.head? ≠ some espImageHeaderMagic then
    (w, content, .returned espErrOtaValidateFailed)
  else if ¬ encrypted then writeRestBytes part w content data a₂
  else if w.partialData = [] then writeBlocksBytes part w content data a₂
  else fillBlockBytes part w content data a₁ a₂

/-- The last check of `esp_ota_end`; `verify` is `esp_image_verify`. -/
def endVerified (verify : List UInt8 → Bool) (content : List UInt8) : List UInt8 × Outcome :=
  (content, .returned (if verify content then espOk else espErrOtaValidateFailed))

/-- `esp_ota_end`. A begun block is written with whatever else stands in `partial_data`. -/
def espOtaEndBytes (part : Partition) (verify : List UInt8 → Bool) (w : WriteEntry)
    (content : List UInt8) (a : Answer (List UInt8)) : List UInt8 × Outcome :=
  if w.erasedSize = 0 ∨ w.wroteSize = 0 then (content, .returned espErrInvalidArg)
  else if w.partialData = [] then endVerified verify content
  else
    let (content, ret) := partitionWrite part content w.wroteSize
      (w.partialData ++ List.replicate (16 - w.partialData.length) w.fill) a
    match ret with
    | .returned code =>
      if code ≠ espOk then (content, .returned espErrInvalidState) else endVerified verify content
    | ret => (content, ret)

/-! ## The bytes are those of the session -/

def WriteEntry.opsEntry (w : WriteEntry) : OtaOpsEntry where
  erasedSize := w.erasedSize
  wroteSize := w.wroteSize
  partialBytes := w.partialData.length

/-- The flash's result, where the power does not go. -/
def Answer.Gives {α : Type} (a : Answer α) (r : FlashResult) : Prop :=
  match a, r with
  | .done, .ok => True
  | .failed code _ _, .error code' _ _ => code = code'
  | _, _ => False

theorem partitionWrite_code {a : Answer (List UInt8)} {r : FlashResult} (h : a.Gives r)
    (part : Partition) (content : List UInt8) (offset : Nat) (data : List UInt8) :
    (partitionWrite part content offset data a).2
      = .returned (espPartitionWrite part offset data.length r) := by
  unfold partitionWrite espPartitionWrite
  split_ifs
  · rfl
  · rfl
  · cases a with
    | done =>
      cases r with
      | ok => rfl
      | error _ _ _ => exact h.elim
    | failed code hok rest =>
      cases r with
      | ok => exact h.elim
      | error code' _ _ => exact congrArg Outcome.returned h
    | cut rest => exact h.elim

theorem writeRestBytes_counts {f : Flash} {a : Answer (List UInt8)} {r : FlashResult}
    (h : a.Gives r) (w : WriteEntry) (content data : List UInt8) :
    (writeRestBytes f.part w content data a).1.opsEntry
        = (writeRest f w.opsEntry data.length r).1
      ∧ (writeRestBytes f.part w content data a).2.2
        = .returned (writeRest f w.opsEntry data.length r).2 := by
  have hcode := partitionWrite_code h f.part content w.wroteSize data
  have hok (code : Int) : Outcome.returned code = .returned espOk ↔ code = espOk :=
    ⟨Outcome.returned.inj, congrArg _⟩
  unfold writeRestBytes writeRest
  dsimp only [WriteEntry.opsEntry]
  rw [hcode]
  simp only [hok]
  split_ifs <;> exact ⟨rfl, rfl⟩

theorem writeBlocksBytes_counts {f : Flash} {a : Answer (List UInt8)} {r : FlashResult}
    (h : a.Gives r) (w : WriteEntry) (content data : List UInt8) :
    (writeBlocksBytes f.part w content data a).1.opsEntry
        = (writeBlocks f w.opsEntry data.length r).1
      ∧ (writeBlocksBytes f.part w content data a).2.2
        = .returned (writeBlocks f w.opsEntry data.length r).2 := by
  have hle : data.length % 16 ≤ data.length := Nat.mod_le _ _
  have hdrop : (data.drop (data.length - data.length % 16)).length = data.length % 16 := by
    rw [List.length_drop]
    omega
  have htake : (data.take (data.length - data.length % 16)).length
      = data.length - data.length % 16 := by
    rw [List.length_take]
    omega
  have hrest := writeRestBytes_counts (f := f) h
    { w with partialData := data.drop (data.length - data.length % 16) } content
    (data.take (data.length - data.length % 16))
  unfold WriteEntry.opsEntry at hrest ⊢
  rw [htake, hdrop] at hrest
  exact hrest

/-- **The calls agree.** Without its bytes, a write that the power survives is the session's. -/
theorem espOtaWriteBytes_counts (f : Flash) (w : WriteEntry) (content : List UInt8)
    {data : List UInt8} {first : UInt8} (hfirst : ∀ b ∈ data.head?, b = first)
    {a₁ a₂ : Answer (List UInt8)} {r₁ r₂ : FlashResult} (h₁ : a₁.Gives r₁) (h₂ : a₂.Gives r₂) :
    (espOtaWriteBytes f.part f.encrypted w content data a₁ a₂).1.opsEntry
        = (espOtaWrite f w.opsEntry first data.length r₁ r₂).1
      ∧ (espOtaWriteBytes f.part f.encrypted w content data a₁ a₂).2.2
        = .returned (espOtaWrite f w.opsEntry first data.length r₁ r₂).2 := by
  have hmagic : (w.wroteSize = 0 ∧ w.partialData = [] ∧ data ≠ []
        ∧ data.head? ≠ some espImageHeaderMagic)
      ↔ (w.opsEntry.wroteSize = 0 ∧ w.opsEntry.partialBytes = 0 ∧ 0 < data.length
        ∧ first ≠ espImageHeaderMagic) := by
    unfold WriteEntry.opsEntry
    dsimp only
    rw [List.length_eq_zero_iff, List.length_pos_iff]
    refine and_congr_right fun _ => and_congr_right fun _ => and_congr_right fun hdata => ?_
    obtain ⟨b, bs, rfl⟩ := List.exists_cons_of_ne_nil hdata
    rw [← hfirst b rfl]
    exact not_congr ⟨Option.some.inj, congrArg some⟩
  have hbegun : w.partialData = [] ↔ w.opsEntry.partialBytes = 0 := List.length_eq_zero_iff.symm
  have hcopied : (data.take (16 - w.partialData.length)).length
      = min (16 - w.opsEntry.partialBytes) data.length := List.length_take
  have hfilled : (w.partialData ++ data.take (16 - w.partialData.length)).length
      = w.opsEntry.partialBytes + min (16 - w.opsEntry.partialBytes) data.length := by
    rw [List.length_append, hcopied]
    rfl
  unfold espOtaWriteBytes espOtaWrite
  by_cases hrefused : w.wroteSize = 0 ∧ w.partialData = [] ∧ data ≠ []
      ∧ data.head? ≠ some espImageHeaderMagic
  · rw [if_pos hrefused, if_pos (hmagic.mp hrefused)]
    exact ⟨rfl, rfl⟩
  rw [if_neg hrefused, if_neg (mt hmagic.mpr hrefused)]
  by_cases hplain : ¬ f.encrypted = true
  · rw [if_pos hplain, if_pos hplain]
    exact writeRestBytes_counts h₂ w content data
  rw [if_neg hplain, if_neg hplain]
  by_cases hwhole : w.partialData = []
  · rw [if_pos hwhole, if_pos (hbegun.mp hwhole)]
    exact writeBlocksBytes_counts h₂ w content data
  rw [if_neg hwhole, if_neg (mt hbegun.mpr hwhole)]
  unfold fillBlockBytes
  dsimp only
  by_cases hfull : w.opsEntry.partialBytes + min (16 - w.opsEntry.partialBytes) data.length ≠ 16
  · rw [if_pos (hfilled ▸ hfull), if_pos hfull]
    refine ⟨?_, rfl⟩
    unfold WriteEntry.opsEntry
    dsimp only
    rw [hfilled]
    rfl
  rw [if_neg (hfilled ▸ hfull), if_neg hfull]
  have hcode := partitionWrite_code h₁ f.part content w.wroteSize
    (w.partialData ++ data.take (16 - w.partialData.length))
  rw [hfilled, not_not.mp hfull] at hcode
  rw [hcode]
  by_cases hret : espPartitionWrite f.part w.opsEntry.wroteSize 16 r₁ ≠ espOk
  · have hfailed : Outcome.returned (espPartitionWrite f.part w.wroteSize 16 r₁) ≠ .returned espOk :=
      fun h => hret (Outcome.returned.inj h)
    rw [if_pos hret, if_pos hfailed]
    refine ⟨?_, rfl⟩
    unfold WriteEntry.opsEntry
    dsimp only
    rw [hfilled]
    rfl
  have hwrote : ¬ Outcome.returned (espPartitionWrite f.part w.wroteSize 16 r₁) ≠ .returned espOk :=
    not_not.mpr (congrArg Outcome.returned (not_not.mp hret))
  rw [if_neg hret, if_neg hwrote]
  have hblocks := writeBlocksBytes_counts (f := f) h₂
    { w with partialData := [], fill := 0xFF, wroteSize := w.wroteSize + 16 }
    (partitionWrite f.part content w.wroteSize
      (w.partialData ++ data.take (16 - w.partialData.length)) a₁).1
    (data.drop (data.take (16 - w.partialData.length)).length)
  rw [List.length_drop, hcopied] at hblocks
  rw [hcopied]
  exact hblocks

/-! ## An image in pieces -/

theorem and_erasedByte (b : UInt8) : erasedByte &&& b = b := UInt8.neg_one_and

theorem zipWith_erased (data : List UInt8) :
    List.zipWith (· &&& ·) (List.replicate data.length erasedByte) data = data := by
  induction data with
  | nil => rfl
  | cons b data ih =>
    rw [List.length_cons, List.replicate_succ, List.zipWith_cons_cons, ih, and_erasedByte]

/-- On erased flash the data is what is written. -/
theorem program_erased (front data : List UInt8) {m : Nat} (h : data.length ≤ m) :
    program (front ++ List.replicate m erasedByte) front.length data
      = front ++ data ++ List.replicate (m - data.length) erasedByte := by
  unfold program
  rw [List.take_left, List.drop_left, List.take_replicate, Nat.min_eq_left h, zipWith_erased,
    ← List.drop_drop, List.drop_left, List.drop_replicate]

/-- What the flash holds of an image: its first bytes, and behind them it is erased. -/
structure Flushed (part : Partition) (flushed : List UInt8) (w : WriteEntry)
    (content : List UInt8) : Prop where
  content : content = flushed ++ List.replicate (part.size - flushed.length) erasedByte
  fits : flushed.length ≤ part.size
  wrote : w.wroteSize = flushed.length

variable {part : Partition} {flushed content data : List UInt8} {w : WriteEntry}
  {a a₁ a₂ : Answer (List UInt8)}

theorem flushed_partitionWrite (h : Flushed part flushed w content)
    (hok : (partitionWrite part content w.wroteSize data a).2 = .returned espOk) :
    Flushed part (flushed ++ data) { w with wroteSize := w.wroteSize + data.length }
      (partitionWrite part content w.wroteSize data a).1 := by
  unfold partitionWrite at hok ⊢
  split_ifs at hok ⊢ with hbehind hlong
  · exact absurd (Outcome.returned.inj hok) (by decide)
  · exact absurd (Outcome.returned.inj hok) (by decide)
  · have hfits : flushed.length + data.length ≤ part.size := h.wrote ▸ Nat.le_of_not_lt hlong
    cases a with
    | done =>
      refine ⟨?_, ?_, ?_⟩
      · dsimp only
        rw [h.wrote, h.content, program_erased _ _ (by omega), List.length_append, Nat.sub_add_eq]
      · rw [List.length_append]
        exact hfits
      · rw [List.length_append]
        exact congrArg (· + data.length) h.wrote
    | failed code hcode rest => exact absurd (Outcome.returned.inj hok) hcode
    | cut rest => exact Outcome.noConfusion hok

theorem flushed_writeRestBytes (h : Flushed part flushed w content)
    (hok : (writeRestBytes part w content data a).2.2 = .returned espOk) :
    Flushed part (flushed ++ data) (writeRestBytes part w content data a).1
        (writeRestBytes part w content data a).2.1
      ∧ (writeRestBytes part w content data a).1.partialData = w.partialData
      ∧ (writeRestBytes part w content data a).1.fill = w.fill := by
  unfold writeRestBytes at hok ⊢
  dsimp only at hok ⊢
  split_ifs at hok ⊢ with hret
  · exact ⟨flushed_partitionWrite h hret, rfl, rfl⟩
  · exact absurd hok hret

/-- What a session has received: the flash holds the first of it, the begun block the rest. -/
structure Holds (part : Partition) (encrypted : Bool) (image : List UInt8) (w : WriteEntry)
    (content : List UInt8) : Prop where
  flushed : ∃ flushed, Flushed part flushed w content ∧ flushed ++ w.partialData = image
  short : w.partialData.length < 16
  plain : encrypted = false → w.partialData = []
  fill : w.fill = 0 ∨ w.fill = 0xFF

variable {encrypted : Bool} {image : List UInt8}

theorem holds_writeBlocksBytes (h : Holds part true image w content) (hwhole : w.partialData = [])
    (hok : (writeBlocksBytes part w content data a).2.2 = .returned espOk) :
    Holds part true (image ++ data) (writeBlocksBytes part w content data a).1
      (writeBlocksBytes part w content data a).2.1 := by
  obtain ⟨flushed, hflushed, himage⟩ := h.flushed
  rw [hwhole, List.append_nil] at himage
  unfold writeBlocksBytes at hok ⊢
  obtain ⟨hwritten, hrest, hfill⟩ := flushed_writeRestBytes
    (w := { w with partialData := data.drop (data.length - data.length % 16) })
    ⟨hflushed.content, hflushed.fits, hflushed.wrote⟩ hok
  have hmod : data.length % 16 < 16 := Nat.mod_lt _ (by decide)
  refine ⟨⟨_, hwritten, ?_⟩, ?_, fun h => Bool.noConfusion h, ?_⟩
  · rw [hrest, List.append_assoc, List.take_append_drop, himage]
  · rw [hrest, List.length_drop]
    omega
  · rw [hfill]
    exact h.fill

theorem holds_fillBlockBytes (h : Holds part true image w content)
    (hok : (fillBlockBytes part w content data a₁ a₂).2.2 = .returned espOk) :
    Holds part true (image ++ data) (fillBlockBytes part w content data a₁ a₂).1
      (fillBlockBytes part w content data a₁ a₂).2.1 := by
  obtain ⟨flushed, hflushed, himage⟩ := h.flushed
  have hcopied : (data.take (16 - w.partialData.length)).length
      = min (16 - w.partialData.length) data.length := List.length_take
  have hshort := h.short
  unfold fillBlockBytes at hok ⊢
  dsimp only at hok ⊢
  split_ifs at hok ⊢ with hfull hwrote
  · -- the data ends before the block does
    rw [List.length_append, hcopied] at hfull
    have hall : data.take (16 - w.partialData.length) = data := List.take_of_length_le (by omega)
    refine ⟨⟨flushed, ⟨hflushed.content, hflushed.fits, hflushed.wrote⟩, ?_⟩, ?_,
      fun h => Bool.noConfusion h, h.fill⟩
    · rw [hall, ← List.append_assoc, himage]
    · rw [List.length_append, hcopied]
      omega
  · exact absurd hok hwrote
  · have hwritten := flushed_partitionWrite hflushed (not_not.mp hwrote)
    rw [not_not.mp hfull] at hwritten
    have hblock : Holds part true (image ++ data.take (16 - w.partialData.length))
        { w with partialData := [], fill := 0xFF, wroteSize := w.wroteSize + 16 }
        (partitionWrite part content w.wroteSize
          (w.partialData ++ data.take (16 - w.partialData.length)) a₁).1 := by
      refine ⟨⟨_, ⟨hwritten.content, hwritten.fits, hwritten.wrote⟩, ?_⟩, Nat.zero_lt_succ _,
        fun h => Bool.noConfusion h, Or.inr rfl⟩
      rw [List.append_nil, ← List.append_assoc, himage]
    have hrest := holds_writeBlocksBytes hblock rfl hok
    rwa [List.append_assoc, List.prefix_iff_eq_append.mp (List.take_prefix _ data)] at hrest

/-- **A write adds its data.** -/
theorem holds_espOtaWriteBytes (h : Holds part encrypted image w content)
    (hok : (espOtaWriteBytes part encrypted w content data a₁ a₂).2.2 = .returned espOk) :
    Holds part encrypted (image ++ data) (espOtaWriteBytes part encrypted w content data a₁ a₂).1
      (espOtaWriteBytes part encrypted w content data a₁ a₂).2.1 := by
  unfold espOtaWriteBytes at hok ⊢
  split_ifs at hok ⊢ with hrefused hplain hwhole
  · exact absurd (Outcome.returned.inj hok) (by decide)
  · obtain rfl : encrypted = true := hplain
    exact holds_writeBlocksBytes h hwhole hok
  · obtain rfl : encrypted = true := hplain
    exact holds_fillBlockBytes h hok
  · have hbegun : w.partialData = [] := h.plain (Bool.eq_false_of_not_eq_true hplain)
    obtain ⟨flushed, hflushed, himage⟩ := h.flushed
    obtain ⟨hwritten, hrest, hfill⟩ := flushed_writeRestBytes hflushed hok
    rw [hbegun, List.append_nil] at himage
    refine ⟨⟨_, hwritten, ?_⟩, ?_, fun _ => hrest.trans hbegun, ?_⟩
    · rw [hrest, hbegun, List.append_nil, himage]
    · rw [hrest]
      exact h.short
    · rw [hfill]
      exact h.fill

/-! ## The session's writes -/

/-- The update partition under a session: its entry and its bytes. -/
structure Update where
  entry : WriteEntry
  content : List UInt8
  deriving DecidableEq, Repr

/-- The data of one `esp_ota_write`, with the flash's answers. -/
structure Chunk where
  data : List UInt8
  answer₁ : Answer (List UInt8) := .done
  answer₂ : Answer (List UInt8) := .done
  deriving Repr

/-- Behind `esp_ota_begin` with `OTA_SIZE_UNKNOWN`: the whole partition is erased. -/
def Update.begun (part : Partition) : Update where
  entry := { erasedSize := part.size }
  content := List.replicate part.size erasedByte

def Update.write (part : Partition) (encrypted : Bool) (u : Update) (c : Chunk) :
    Update × List Outcome :=
  let (entry, content, ret) :=
    espOtaWriteBytes part encrypted u.entry u.content c.data c.answer₁ c.answer₂
  (⟨entry, content⟩, [ret])

theorem holds_begun (part : Partition) (encrypted : Bool) :
    Holds part encrypted [] (Update.begun part).entry (Update.begun part).content :=
  ⟨⟨[], ⟨rfl, Nat.zero_le _, rfl⟩, rfl⟩, Nat.zero_lt_succ _, fun _ => rfl, Or.inl rfl⟩

/-- Induction on the pieces. -/
theorem holds_run {u : Update} (h : Holds part encrypted image u.entry u.content)
    {chunks : List Chunk}
    (hok : ∀ ret ∈ (run (Update.write part encrypted) u chunks).2, ret = .returned espOk) :
    Holds part encrypted (image ++ chunks.flatMap Chunk.data)
      (run (Update.write part encrypted) u chunks).1.entry
      (run (Update.write part encrypted) u chunks).1.content := by
  induction chunks generalizing u image with
  | nil =>
    rw [List.flatMap_nil, List.append_nil]
    exact h
  | cons c chunks ih =>
    rw [run_cons] at hok ⊢
    obtain ⟨hhead, htail⟩ := List.forall_mem_append.mp hok
    rw [List.flatMap_cons, ← List.append_assoc]
    exact ih (holds_espOtaWriteBytes h (hhead _ (List.mem_singleton.mpr rfl))) htail

/-- `esp_ota_end` pads a begun block and has the whole verified. -/
theorem espOtaEndBytes_ok {verify : List UInt8 → Bool} {content' : List UInt8}
    (h : Holds part encrypted image w content)
    (hend : espOtaEndBytes part verify w content a = (content', .returned espOk)) :
    verify content' = true
      ∧ ∃ padding w', Flushed part (image ++ padding) w' content'
        ∧ padding.length < 16 ∧ (encrypted = false → padding = [])
        ∧ ∀ b ∈ padding, b = 0 ∨ b = 0xFF := by
  obtain ⟨flushed, hflushed, himage⟩ := h.flushed
  have hfailed {code : Int} {c : List UInt8} (hcode : code ≠ espOk)
      (heq : (c, Outcome.returned code) = (content', .returned espOk)) : False :=
    hcode (Outcome.returned.inj (congrArg Prod.snd heq))
  have hverified {c : List UInt8} (heq : endVerified verify c = (content', .returned espOk)) :
      c = content' ∧ verify content' = true := by
    obtain rfl : c = content' := congrArg Prod.fst heq
    refine ⟨rfl, Bool.eq_true_of_not_eq_false fun hfalse => ?_⟩
    unfold endVerified at heq
    rw [hfalse] at heq
    exact hfailed (by decide) heq
  unfold espOtaEndBytes at hend
  split_ifs at hend with hempty hwhole
  · exact (hfailed (by decide) hend).elim
  · obtain ⟨rfl, hverify⟩ := hverified hend
    refine ⟨hverify, [], w, ?_, by decide, fun _ => rfl, fun _ h => absurd h List.not_mem_nil⟩
    rw [hwhole, List.append_nil] at himage
    rwa [List.append_nil, ← himage]
  · have hpadded (hok : (partitionWrite part content w.wroteSize
        (w.partialData ++ List.replicate (16 - w.partialData.length) w.fill) a).2
          = .returned espOk) := flushed_partitionWrite hflushed hok
    have hshort := h.short
    cases hret : partitionWrite part content w.wroteSize
      (w.partialData ++ List.replicate (16 - w.partialData.length) w.fill) a with
    | mk c ret =>
      rw [hret] at hend hpadded
      cases ret with
      | returned code =>
        dsimp only at hend
        split_ifs at hend with hcode
        · exact (hfailed (by decide) hend).elim
        · obtain ⟨rfl, hverify⟩ := hverified hend
          have hpart := hpadded (congrArg Outcome.returned (not_not.mp hcode))
          rw [← List.append_assoc, himage] at hpart
          refine ⟨hverify, _, _, hpart, ?_, fun hplain => absurd (h.plain hplain) hwhole,
            fun b hb => ?_⟩
          · have := List.length_pos_iff.mpr hwhole
            rw [List.length_replicate]
            omega
          · rw [List.eq_of_mem_replicate hb]
            exact h.fill
      | off | stuck => exact Outcome.noConfusion (congrArg Prod.snd hend)

/-- **An image is written as it was sent.** However it is cut into pieces, when every
`esp_ota_write` and the `esp_ota_end` return `ESP_OK`, the partition holds the image from its start
on, then at most fifteen bytes of padding (none without encryption), and behind them it is erased;
and that is what was verified. -/
theorem run_written (part : Partition) (encrypted : Bool) (verify : List UInt8 → Bool)
    {chunks : List Chunk} {a : Answer (List UInt8)} {content : List UInt8}
    (hok : ∀ ret ∈ (run (Update.write part encrypted) (.begun part) chunks).2,
      ret = .returned espOk)
    (hend : espOtaEndBytes part verify
      (run (Update.write part encrypted) (.begun part) chunks).1.entry
      (run (Update.write part encrypted) (.begun part) chunks).1.content a
        = (content, .returned espOk)) :
    verify content = true
      ∧ ∃ padding,
        content = chunks.flatMap Chunk.data ++ padding
            ++ List.replicate (part.size - (chunks.flatMap Chunk.data ++ padding).length) erasedByte
          ∧ (chunks.flatMap Chunk.data ++ padding).length ≤ part.size
          ∧ padding.length < 16 ∧ (encrypted = false → padding = [])
          ∧ ∀ b ∈ padding, b = 0 ∨ b = 0xFF := by
  have hholds := holds_run (holds_begun part encrypted) hok
  rw [List.nil_append] at hholds
  obtain ⟨hverify, padding, w, hflushed, hpadding⟩ := espOtaEndBytes_ok hholds hend
  exact ⟨hverify, padding, hflushed.content, hflushed.fits, hpadding⟩

/-- A partition of 64 bytes on an encrypted flash, and an image in two pieces. -/
def samplePartition : Partition := ⟨64, by decide, by decide⟩

def samplePieces : List Chunk := [{ data := [0xE9, 1, 2] }, { data := List.replicate 20 7 }]

def startsWithMagic (content : List UInt8) : Bool := content.head? == some espImageHeaderMagic

theorem run_written_samplePieces :
    startsWithMagic (samplePieces.flatMap Chunk.data ++ List.replicate 41 erasedByte) = true
      ∧ ∃ padding, samplePieces.flatMap Chunk.data ++ List.replicate 41 erasedByte
        = samplePieces.flatMap Chunk.data ++ padding
          ++ List.replicate (64 - (samplePieces.flatMap Chunk.data ++ padding).length)
            erasedByte := by
  have hok : ∀ ret ∈ (run (Update.write samplePartition true) (.begun samplePartition)
      samplePieces).2, ret = .returned espOk := by decide +kernel
  have hend : espOtaEndBytes samplePartition startsWithMagic
      (run (Update.write samplePartition true) (.begun samplePartition) samplePieces).1.entry
      (run (Update.write samplePartition true) (.begun samplePartition) samplePieces).1.content .done
        = (samplePieces.flatMap Chunk.data ++ List.replicate 41 erasedByte, .returned espOk) := by
    decide +kernel
  obtain ⟨hverify, padding, hcontent, -⟩ :=
    run_written samplePartition true startsWithMagic hok hend
  exact ⟨hverify, padding, hcontent⟩

/-! ## Which images are accepted -/

theorem partitionWrite_done {offset : Nat} (h : offset + data.length ≤ part.size) :
    (partitionWrite part content offset data .done).2 = .returned espOk := by
  unfold partitionWrite
  rw [if_neg (by omega), if_neg (by omega)]

theorem accepted_writeRestBytes (h : w.wroteSize + data.length ≤ part.size) :
    (writeRestBytes part w content data .done).2.2 = .returned espOk := by
  unfold writeRestBytes
  dsimp only
  rw [if_pos (partitionWrite_done h)]
  exact partitionWrite_done h

theorem accepted_writeBlocksBytes (h : w.wroteSize + data.length ≤ part.size) :
    (writeBlocksBytes part w content data .done).2.2 = .returned espOk := by
  refine accepted_writeRestBytes ?_
  dsimp only
  rw [List.length_take]
  omega

/-- A write is accepted that leaves the image in the partition and begins it with the magic. -/
theorem accepted_espOtaWriteBytes (h : Holds part encrypted image w content)
    (hfits : (image ++ data).length ≤ part.size)
    (hmagic : ∀ b ∈ (image ++ data).head?, b = espImageHeaderMagic) :
    (espOtaWriteBytes part encrypted w content data .done .done).2.2 = .returned espOk := by
  obtain ⟨flushed, hflushed, rfl⟩ := h.flushed
  have hwrote := hflushed.wrote
  rw [List.length_append, List.length_append] at hfits
  unfold espOtaWriteBytes
  split_ifs with hrefused hplain hwhole
  · obtain ⟨hnone, hwhole, hdata, hhead⟩ := hrefused
    rw [hwhole, List.length_eq_zero_iff.mp (hwrote.symm.trans hnone)] at hmagic
    obtain ⟨b, bs, rfl⟩ := List.exists_cons_of_ne_nil hdata
    exact absurd (congrArg some (hmagic b rfl)) hhead
  · exact accepted_writeBlocksBytes (by omega)
  · have hcopied : (data.take (16 - w.partialData.length)).length
        = min (16 - w.partialData.length) data.length := List.length_take
    have hshort := h.short
    unfold fillBlockBytes
    dsimp only
    split_ifs with hfull hret
    · rfl
    · rw [List.length_append, hcopied] at hfull
      exact absurd (partitionWrite_done (by rw [List.length_append, hcopied]; omega)) hret
    · rw [List.length_append, hcopied] at hfull
      refine accepted_writeBlocksBytes ?_
      rw [List.length_drop, hcopied]
      dsimp only
      omega
  · exact accepted_writeRestBytes (by omega)

/-- **A good image is accepted**, however it is cut into pieces: when it begins with the magic, fits
the partition and the flash does what it is asked, every `esp_ota_write` returns `ESP_OK`. Induction
on the pieces. -/
theorem run_accepted {u : Update} (h : Holds part encrypted image u.entry u.content)
    {chunks : List Chunk} (hdone : ∀ c ∈ chunks, c.answer₁ = .done ∧ c.answer₂ = .done)
    (hfits : (image ++ chunks.flatMap Chunk.data).length ≤ part.size)
    (hmagic : ∀ b ∈ (image ++ chunks.flatMap Chunk.data).head?, b = espImageHeaderMagic) :
    ∀ ret ∈ (run (Update.write part encrypted) u chunks).2, ret = .returned espOk := by
  induction chunks generalizing u image with
  | nil => exact fun _ h => absurd h List.not_mem_nil
  | cons c chunks ih =>
    obtain ⟨⟨h₁, h₂⟩, hrest⟩ := List.forall_mem_cons.mp hdone
    rw [List.flatMap_cons, ← List.append_assoc] at hfits hmagic
    have hwrite : (espOtaWriteBytes part encrypted u.entry u.content c.data c.answer₁
        c.answer₂).2.2 = .returned espOk := by
      rw [h₁, h₂]
      refine accepted_espOtaWriteBytes h ?_ fun b hb => hmagic b ?_
      · rw [List.length_append] at hfits
        exact (Nat.le_add_right _ _).trans hfits
      · rw [List.head?_append, hb]
        rfl
    rw [run_cons]
    exact List.forall_mem_append.mpr ⟨List.forall_mem_singleton.mpr hwrite,
      ih (holds_espOtaWriteBytes h hwrite) hrest hfits hmagic⟩

theorem run_accepted_samplePieces :
    (run (Update.write samplePartition true) (.begun samplePartition) samplePieces).2.all
      (· == .returned espOk) = true := by
  have hmagic : ∀ b ∈ ([] ++ samplePieces.flatMap Chunk.data).head?, b = espImageHeaderMagic :=
    fun _ hb => (Option.some.inj hb).symm
  refine List.all_eq_true.mpr fun ret hret => beq_iff_eq.mpr ?_
  exact run_accepted (holds_begun samplePartition true) (by decide) (by decide) hmagic ret hret

end ControlFan.Ota
