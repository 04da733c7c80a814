import Mathlib.Tactic.Linarith
import ControlFan.Esp

/-!
# Ota — a download session (`esp_https_ota.c` over `esp_ota_ops.c`)

An `esp_https_ota` session reads the image from its HTTP client and writes it to the update
partition. Network, flash and image verification are the environment: each call that
reaches them is given its answer.

* `espOtaWrite`, `espOtaEnd` — the flash side, with the 16-byte blocks of an encrypted flash;
* `espHttpsOtaBegin`, `espHttpsOtaGetImgDesc`, `espHttpsOtaPerform`, `espHttpsOtaFinish` —
  the four states of a session.
-/

namespace ControlFan.Ota

/-! ## The flash layer -/

/-- The update partition: part of a flash of at most 16 MB. -/
structure Partition where
  size : Nat
  hpos : 0 < size
  hsize : size ≤ 16 * 1024 * 1024
  deriving DecidableEq, Repr

/-- What the flash driver answers. Its error codes are none of the OTA component's. -/
inductive FlashResult where
  | ok
  | error (code : Int) (hok : code ≠ espOk) (hprogress : code ≠ espErrHttpsOtaInProgress)
  deriving DecidableEq, Repr

def FlashResult.code : FlashResult → Int
  | .ok => espOk
  | .error code _ _ => code

/-- `esp_partition_write`: rejects what does not fit the partition, else asks the flash. -/
def espPartitionWrite (part : Partition) (offset size : Nat) (r : FlashResult) : Int :=
  if part.size < offset then espErrInvalidArg
  else if part.size < offset + size then espErrInvalidSize
  else r.code

structure Flash where
  part : Partition
  encrypted : Bool := false
  deriving DecidableEq, Repr

/-- `ota_ops_entry_t`: what `esp_ota_begin` has erased and how far the writes are. -/
structure OtaOpsEntry where
  erasedSize : Nat
  wroteSize : Nat := 0
  partialBytes : Nat := 0
  deriving DecidableEq, Repr

/-- How far `esp_ota_begin` comes: to one of its checks, to the erasing of the partition, or
to the allocation behind it. -/
inductive OtaBegin where
  | invalidArg
  | notFound
  | partitionConflict
  | rollbackInvalidState
  | erase (r : FlashResult)
  | noMem
  deriving DecidableEq, Repr

def espErrOtaPartitionConflict : Int := 0x1501
def espErrOtaRollbackInvalidState : Int := 0x1506

def espOtaBegin : OtaBegin → Int
  | .invalidArg => espErrInvalidArg
  | .notFound => espErrNotFound
  | .partitionConflict => espErrOtaPartitionConflict
  | .rollbackInvalidState => espErrOtaRollbackInvalidState
  | .erase r => r.code
  | .noMem => espErrNoMem

def espImageHeaderMagic : UInt8 := 0xE9

def writeRest (f : Flash) (e : OtaOpsEntry) (size : Nat) (r : FlashResult) : OtaOpsEntry × Int :=
  let ret := espPartitionWrite f.part e.wroteSize size r
  if ret = espOk then ({ e with wroteSize := e.wroteSize + size }, ret) else (e, ret)

/-- The same on an encrypted flash: whole blocks, the remainder is kept for the next call. -/
def writeBlocks (f : Flash) (e : OtaOpsEntry) (size : Nat) (r : FlashResult) :
    OtaOpsEntry × Int :=
  writeRest f { e with partialBytes := size % 16 } (size - size % 16) r

/-- `esp_ota_write` of `size` bytes, the first of which is `first`; `r₁` answers the write of
a filled-up block, `r₂` the last write. -/
def espOtaWrite (f : Flash) (e : OtaOpsEntry) (first : UInt8) (size : Nat)
    (r₁ r₂ : FlashResult) : OtaOpsEntry × Int :=
  -- the first byte of an image is its magic
  if e.wroteSize = 0 ∧ e.partialBytes = 0 ∧ 0 < size ∧ first ≠ espImageHeaderMagic then
    (e, espErrOtaValidateFailed)
  else if ¬ f.encrypted then writeRest f e size r₂
  else if e.partialBytes = 0 then writeBlocks f e size r₂
  else
    -- a block was begun by an earlier call
    let copyLen := min (16 - e.partialBytes) size
    let e := { e with partialBytes := e.partialBytes + copyLen }
    -- still not full: nothing is written, and the call succeeds
    if e.partialBytes ≠ 16 then (e, espOk)
    else
      let ret := espPartitionWrite f.part e.wroteSize 16 r₁
      if ret ≠ espOk then (e, ret)
      else
        writeBlocks f { e with partialBytes := 0, wroteSize := e.wroteSize + 16 } (size - copyLen) r₂

/-- `esp_ota_end`: `r` answers the write of a begun block, `verified` is the verdict of
`esp_image_verify`. -/
def espOtaEnd (f : Flash) (entry : Option OtaOpsEntry) (r : FlashResult) (verified : Bool) : Int :=
  match entry with
  | none => espErrNotFound
  | some e =>
    if e.erasedSize = 0 ∨ e.wroteSize = 0 then espErrInvalidArg
    else if 0 < e.partialBytes ∧ espPartitionWrite f.part e.wroteSize 16 r ≠ espOk then
      espErrInvalidState
    else if ¬ verified then espErrOtaValidateFailed
    else espOk

/-! ## The session -/

inductive OtaState where
  | init
  | begin
  | inProgress
  | success
  deriving DecidableEq, Repr

/-- One `esp_http_client_read`: its result, the first byte it stored, whether `errno` says
that the connection is closed, and `esp_http_client_is_complete_data_received` after it. -/
structure HttpRead where
  ret : Int
  first : UInt8 := 0
  closed : Bool := false
  complete : Bool := false
  deriving DecidableEq, Repr

/-- `struct esp_https_ota_handle`, with the first byte of `ota_upgrade_buf`, the state of
its HTTP client and the entry behind `update_handle`. -/
structure Session where
  state : OtaState
  binaryFileLen : Nat := 0
  first : UInt8 := 0
  complete : Bool := false
  entry : Option OtaOpsEntry := none
  deriving DecidableEq, Repr

/-- What `esp_https_ota_begin` meets: its allocations, the HTTP client, the result of
`_http_connect`, the search for the passive partition. -/
structure BeginEnv where
  calloc : Bool := true
  clientInit : Bool := true
  connect : Int := espOk
  nextPartition : Bool := true
  malloc : Bool := true
  complete : Bool := false
  deriving DecidableEq, Repr

/-- `esp_https_ota_begin`. Every failure frees what it has allocated. -/
def espHttpsOtaBegin (b : BeginEnv) : Except Int Session :=
  if ¬ b.calloc then .error espErrNoMem
  else if ¬ b.clientInit then .error espFail
  else if b.connect ≠ espOk then .error b.connect
  else if ¬ b.nextPartition then .error espFail
  else if ¬ b.malloc then .error espErrNoMem
  else .ok { state := .begin, complete := b.complete }

/-- `IMAGE_HEADER_SIZE`: image header, segment header, application description, one byte. -/
def imageHeaderSize : Nat := 24 + 8 + 256 + 1

/-- The loop of `esp_https_ota_get_img_desc`, with `data_read_size` and `bytes_read`. When
the reads run out the connection is closed: one that stalls without an error keeps the loop for
ever, and is left out. -/
def readHeader (s : Session) (dataReadSize bytesRead : Nat) : List HttpRead → Session × Nat × Nat
  | [] => (s, dataReadSize, bytesRead)
  | r :: reads =>
    if dataReadSize = 0 ∨ s.complete then (s, dataReadSize, bytesRead)
    else
      let s :=
        { s with
          complete := r.complete
          first := if bytesRead = 0 ∧ 0 < r.ret then r.first else s.first }
      if r.closed ∨ r.ret < 0 then (s, dataReadSize, bytesRead)
      else
        let dataRead := min r.ret.toNat dataReadSize
        readHeader s (dataReadSize - dataRead) (bytesRead + dataRead) reads

def espHttpsOtaGetImgDesc (s : Session) (reads : List HttpRead) : Session × Int :=
  if s.state = .init then (s, espFail)
  else
    let (s, dataReadSize, bytesRead) := readHeader s imageHeaderSize 0 reads
    if 0 < dataReadSize then (s, espFail) else ({ s with binaryFileLen := bytesRead }, espOk)

def otaWrite (f : Flash) (s : Session) (size : Nat) (r₁ r₂ : FlashResult) : Session × Int :=
  match s.entry with
  | none => (s, espErrInvalidArg)
  | some e =>
    let (e, err) := espOtaWrite f e s.first size r₁ r₂
    if err ≠ espOk then ({ s with entry := some e }, err)
    else
      ({ s with entry := some e, binaryFileLen := s.binaryFileLen + size },
        espErrHttpsOtaInProgress)

def otaUpgradeBufSize : Nat := 4096

structure PerformEnv where
  otaBegin : OtaBegin := .erase .ok
  read : HttpRead := { ret := -1 }
  write₁ : FlashResult := .ok
  write₂ : FlashResult := .ok
  deriving DecidableEq, Repr

def PerformEnv.bytes (p : PerformEnv) : Nat := min p.read.ret.toNat otaUpgradeBufSize

/-- `esp_https_ota_perform`, case `ESP_HTTPS_OTA_IN_PROGRESS`. -/
def performRead (f : Flash) (s : Session) (p : PerformEnv) : Session × Int :=
  let s := { s with complete := p.read.complete }
  if p.read.ret = 0 then
    -- no data: the connection is closed, the server is slow, or the image is there
    if p.read.closed ∧ ¬ p.read.complete then (s, espFail)
    else if ¬ p.read.complete then (s, espErrHttpsOtaInProgress)
    else ({ s with state := .success }, espOk)
  else if 0 < p.read.ret then
    otaWrite f { s with first := p.read.first } p.bytes p.write₁ p.write₂
  else (s, espFail)

/-- `esp_https_ota_perform`. The first call writes what `esp_https_ota_get_img_desc` has
read, and counts it a second time. -/
def espHttpsOtaPerform (f : Flash) (s : Session) (p : PerformEnv) : Session × Int :=
  match s.state with
  | .init => (s, espFail)
  | .begin =>
    if espOtaBegin p.otaBegin ≠ espOk then (s, espOtaBegin p.otaBegin)
    else
      -- the whole partition is erased (`OTA_SIZE_UNKNOWN`)
      let s := { s with state := .inProgress, entry := some { erasedSize := f.part.size } }
      if s.binaryFileLen ≠ 0 then otaWrite f s s.binaryFileLen p.write₁ p.write₂
      else performRead f s p
  | .inProgress => performRead f s p
  | .success => (s, espFail)

def espHttpsOtaGetImageLenRead (s : Session) : Int :=
  if s.state = .init ∨ s.state = .begin then -1 else s.binaryFileLen

structure FinishEnv where
  write : FlashResult := .ok
  verified : Bool := true
  setBoot : Int := espOk
  deriving DecidableEq, Repr

/-- `esp_https_ota_finish`: its result, that of `esp_ota_end`, and that of
`esp_ota_set_boot_partition`, where they are called. The inner `err` shadows the outer one,
so the last has no part in the first. -/
def espHttpsOtaFinish (f : Flash) (s : Session) (e : FinishEnv) : Int × Option Int × Option Int :=
  match s.state with
  | .init => (espFail, none, none)
  | .begin => (espOk, none, none)
  -- `esp_ota_end` checks the image also when it was not received to its end
  | .inProgress =>
    let err := espOtaEnd f s.entry e.write e.verified
    (err, some err, none)
  | .success =>
    let err := espOtaEnd f s.entry e.write e.verified
    (err, some err, if err = espOk then some e.setBoot else none)

end ControlFan.Ota
