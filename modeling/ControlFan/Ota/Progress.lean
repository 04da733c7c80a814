import Mathlib.Data.List.Pairwise
import ControlFan.Lib.Machine
import ControlFan.Ota.Outcome

/-!
# Ota — the progress of a download

`progress = dl * 100 / size` joins two counters that nobody keeps in step. `dl` is
`binary_file_len`, which counts the image header twice: `esp_https_ota_get_img_desc` sets
it to the header's length and the first write adds that length again. `size` is a static,
fetched once a boot by a second request that may fail or give no length.

* **`perform_counts`** — what one `esp_https_ota_perform` adds to the counter;
* **`evals_bounded`** — the counter stays below the partition size and one header, so
  `dl * 100` fits an `int32_t` in every run;
* **`progress_run`** — in every run whose downloads know the size of their image, and whose
  image is long enough for the second header not to show, the divisor is that size and the
  progress climbs from 0 to 100.
-/

namespace ControlFan.Ota

open Machine

/-! ## Counting written bytes -/

theorem fits_of_write_ok {part : Partition} {offset size : Nat} {r : FlashResult}
    (h : espPartitionWrite part offset size r = espOk) : offset + size ≤ part.size := by
  unfold espPartitionWrite at h
  by_cases hoff : part.size < offset
  · rw [if_pos hoff] at h
    exact absurd h (by decide)
  · rw [if_neg hoff] at h
    by_cases hfit : part.size < offset + size
    · rw [if_pos hfit] at h
      exact absurd h (by decide)
    · omega

theorem code_ne_inProgress (r : FlashResult) : r.code ≠ espErrHttpsOtaInProgress := by
  cases r with
  | ok => exact show espOk ≠ espErrHttpsOtaInProgress by decide
  | error code hok hprogress => exact hprogress

theorem espOtaBegin_ne_inProgress (b : OtaBegin) : espOtaBegin b ≠ espErrHttpsOtaInProgress := by
  cases b with
  | erase r => exact code_ne_inProgress r
  | _ => decide

theorem write_ne_inProgress (part : Partition) (offset size : Nat) (r : FlashResult) :
    espPartitionWrite part offset size r ≠ espErrHttpsOtaInProgress := by
  unfold espPartitionWrite
  split_ifs
  · decide
  · decide
  · exact code_ne_inProgress r

/-- A write of `size` bytes to the entry `e` that succeeded with `e'`. -/
structure Wrote (f : Flash) (e : OtaOpsEntry) (size : Nat) (e' : OtaOpsEntry) : Prop where
  total : e'.wroteSize + e'.partialBytes = e.wroteSize + e.partialBytes + size
  fits : e'.wroteSize ≤ f.part.size
  partial_lt : e'.partialBytes < 16

theorem writeRest_spec (f : Flash) {e : OtaOpsEntry} (hpart : e.partialBytes < 16) (size : Nat)
    (r : FlashResult) :
    (writeRest f e size r).2 ≠ espErrHttpsOtaInProgress
      ∧ ((writeRest f e size r).2 = espOk → Wrote f e size (writeRest f e size r).1) := by
  have hne := write_ne_inProgress f.part e.wroteSize size r
  unfold writeRest
  by_cases hok : espPartitionWrite f.part e.wroteSize size r = espOk
  · have hfit := fits_of_write_ok hok
    simp only [hok, if_true]
    refine ⟨by decide, fun _ => ⟨?_, hfit, hpart⟩⟩
    show e.wroteSize + size + e.partialBytes = _
    omega
  · simp only [hok, if_false]
    exact ⟨hne, False.elim⟩

theorem writeBlocks_spec (f : Flash) {e : OtaOpsEntry} (hpart : e.partialBytes = 0) (size : Nat)
    (r : FlashResult) :
    (writeBlocks f e size r).2 ≠ espErrHttpsOtaInProgress
      ∧ ((writeBlocks f e size r).2 = espOk → Wrote f e size (writeBlocks f e size r).1) := by
  have hlt : size % 16 < 16 := Nat.mod_lt _ (by decide)
  obtain ⟨hne, hok⟩ := writeRest_spec f (e := { e with partialBytes := size % 16 }) hlt
    (size - size % 16) r
  refine ⟨hne, fun h => ?_⟩
  obtain ⟨htotal, hfits, hpartial⟩ := hok h
  refine ⟨?_, hfits, hpartial⟩
  have hmod := Nat.mod_le size 16
  unfold writeBlocks
  simp only at htotal
  omega

/-- `esp_ota_write` loses no byte: what is not written is kept for the next block. -/
theorem espOtaWrite_spec (f : Flash) {e : OtaOpsEntry} (hfits : e.wroteSize ≤ f.part.size)
    (hpart : e.partialBytes < 16) (first : UInt8) (size : Nat) (r₁ r₂ : FlashResult) :
    (espOtaWrite f e first size r₁ r₂).2 ≠ espErrHttpsOtaInProgress
      ∧ ((espOtaWrite f e first size r₁ r₂).2 = espOk →
          Wrote f e size (espOtaWrite f e first size r₁ r₂).1) := by
  unfold espOtaWrite
  by_cases hmagic : e.wroteSize = 0 ∧ e.partialBytes = 0 ∧ 0 < size ∧ first ≠ espImageHeaderMagic
  · rw [if_pos hmagic]
    exact ⟨show espErrOtaValidateFailed ≠ espErrHttpsOtaInProgress by decide,
      fun h => absurd h (show espErrOtaValidateFailed ≠ espOk by decide)⟩
  · rw [if_neg hmagic]
    by_cases henc : f.encrypted
    · by_cases hzero : e.partialBytes = 0
      · simp only [henc, not_true, if_false, hzero, if_true]
        exact writeBlocks_spec f hzero size r₂
      · simp only [henc, not_true, if_false, hzero]
        by_cases hfull : e.partialBytes + min (16 - e.partialBytes) size = 16
        · by_cases hwrite : espPartitionWrite f.part e.wroteSize 16 r₁ = espOk
          · -- the begun block is written, the rest starts a new one
            simp only [hfull, hwrite, ne_eq, not_true, if_false]
            obtain ⟨hne, hok⟩ := writeBlocks_spec f
              (e := { e with partialBytes := 0, wroteSize := e.wroteSize + 16 }) rfl
              (size - min (16 - e.partialBytes) size) r₂
            refine ⟨hne, fun h => ?_⟩
            obtain ⟨htotal, hfits', hpartial⟩ := hok h
            refine ⟨?_, hfits', hpartial⟩
            simp only at htotal
            omega
          · have hne := write_ne_inProgress f.part e.wroteSize 16 r₁
            simp only [hfull, hwrite, ne_eq, not_true, not_false_eq_true, if_false, if_true]
            exact ⟨hne, False.elim⟩
        · simp only [hfull, ne_eq, not_false_eq_true, if_true]
          refine ⟨by decide, fun _ => ⟨?_, hfits, ?_⟩⟩
          · show e.wroteSize + (e.partialBytes + min (16 - e.partialBytes) size) = _
            omega
          · show e.partialBytes + min (16 - e.partialBytes) size < 16
            omega
    · simp only [henc, Bool.false_eq_true, not_false_eq_true, if_true]
      exact writeRest_spec f hpart size r₂

/-! ## The counter of a session -/

/-- A session in progress: the counter is one header ahead of what is written. -/
structure Counting (f : Flash) (s : Session) : Prop where
  state : s.state = .inProgress
  entry : ∃ e, s.entry = some e ∧ e.wroteSize ≤ f.part.size ∧ e.partialBytes < 16
    ∧ s.binaryFileLen = imageHeaderSize + e.wroteSize + e.partialBytes

def HeaderRead (s : Session) : Prop := s.state = .begin ∧ s.binaryFileLen = imageHeaderSize

theorem otaWrite_counts {f : Flash} {s : Session} (hstate : s.state = .inProgress)
    {e : OtaOpsEntry} (hentry : s.entry = some e) (hfits : e.wroteSize ≤ f.part.size)
    (hpart : e.partialBytes < 16) {size : Nat} {r₁ r₂ : FlashResult}
    (hlen : s.binaryFileLen + size = imageHeaderSize + e.wroteSize + e.partialBytes + size)
    (h : (otaWrite f s size r₁ r₂).2 = espErrHttpsOtaInProgress) :
    Counting f (otaWrite f s size r₁ r₂).1
      ∧ (otaWrite f s size r₁ r₂).1.binaryFileLen = s.binaryFileLen + size := by
  obtain ⟨hne, hwrote⟩ := espOtaWrite_spec f hfits hpart s.first size r₁ r₂
  unfold otaWrite at h ⊢
  simp only [hentry] at h ⊢
  by_cases hok : (espOtaWrite f e s.first size r₁ r₂).2 = espOk
  · obtain ⟨htotal, hfits', hpartial⟩ := hwrote hok
    simp only [hok, ne_eq, not_true, if_false]
    refine ⟨⟨hstate, _, rfl, hfits', hpartial, ?_⟩, trivial⟩
    show s.binaryFileLen + size = _
    omega
  · simp only [hok, ne_eq, not_false_eq_true, if_true] at h
    exact absurd h hne

theorem performRead_counts {f : Flash} {s : Session} (hs : Counting f s) {p : PerformEnv}
    (h : (performRead f s p).2 = espErrHttpsOtaInProgress) :
    Counting f (performRead f s p).1
      ∧ (performRead f s p).1.binaryFileLen = s.binaryFileLen + p.bytes := by
  obtain ⟨hstate, e, hentry, hfits, hpart, hlen⟩ := hs
  unfold performRead at h ⊢
  by_cases h0 : p.read.ret = 0
  · -- nothing read: the session goes on as it was
    have hbytes : p.bytes = 0 := by simp [PerformEnv.bytes, h0]
    by_cases hcomplete : p.read.complete
    · simp [h0, hcomplete, espOk, espErrHttpsOtaInProgress] at h
    · by_cases hclosed : p.read.closed
      · simp [h0, hcomplete, hclosed, espFail, espErrHttpsOtaInProgress] at h
      · simp only [h0, hcomplete, hclosed, if_true, Bool.false_eq_true, false_and, if_false,
          not_false_eq_true]
        exact ⟨⟨hstate, e, hentry, hfits, hpart, hlen⟩, by rw [hbytes]; rfl⟩
  · by_cases hpos : 0 < p.read.ret
    · simp only [h0, hpos, if_true, if_false] at h ⊢
      exact otaWrite_counts (s := { s with complete := p.read.complete, first := p.read.first })
        hstate hentry hfits hpart (by simp only; omega) h
    · simp [h0, hpos, espFail, espErrHttpsOtaInProgress] at h

/-- **What a round adds to the counter**: the first one the header, for the second time;
every other one the bytes it read. -/
theorem perform_counts {f : Flash} {s : Session} {p : PerformEnv}
    (h : (espHttpsOtaPerform f s p).2 = espErrHttpsOtaInProgress) :
    (HeaderRead s → Counting f (espHttpsOtaPerform f s p).1
        ∧ (espHttpsOtaPerform f s p).1.binaryFileLen = s.binaryFileLen + imageHeaderSize)
      ∧ (Counting f s → Counting f (espHttpsOtaPerform f s p).1
        ∧ (espHttpsOtaPerform f s p).1.binaryFileLen = s.binaryFileLen + p.bytes) := by
  constructor
  · rintro ⟨hstate, hlen⟩
    unfold espHttpsOtaPerform at h ⊢
    rw [hstate] at h ⊢
    have hne : s.binaryFileLen ≠ 0 := by rw [hlen]; decide
    by_cases hbegin : espOtaBegin p.otaBegin = espOk
    · simp only [hbegin, ne_eq, not_true, if_false, hne, not_false_eq_true, if_true] at h ⊢
      -- nothing is written yet, and the counter holds the header already
      have hcounts := otaWrite_counts (f := f)
        (s := { s with state := .inProgress, entry := some { erasedSize := f.part.size } }) rfl rfl
        (Nat.zero_le _) (show (0 : Nat) < 16 by decide) (by simp only; omega) h
      rw [← hlen]
      exact hcounts
    · simp only [hbegin, ne_eq, not_false_eq_true, if_true] at h
      exact absurd h (espOtaBegin_ne_inProgress p.otaBegin)
  · intro hs
    unfold espHttpsOtaPerform at h ⊢
    rw [hs.state] at h ⊢
    exact performRead_counts hs h

theorem Counting.bounded {f : Flash} {s : Session} (h : Counting f s) :
    s.binaryFileLen ≤ f.part.size + 305 := by
  obtain ⟨-, e, -, hfits, hpart, hlen⟩ := h
  rw [show imageHeaderSize = 289 from rfl] at hlen
  omega

theorem imageLen_of_counting {f : Flash} {s : Session} (h : Counting f s) :
    espHttpsOtaGetImageLenRead s = s.binaryFileLen := by
  simp [espHttpsOtaGetImageLenRead, h.state]

theorem readHeader_total (s : Session) (size n : Nat) (reads : List HttpRead) :
    (readHeader s size n reads).2.1 + (readHeader s size n reads).2.2 = size + n := by
  induction reads generalizing s size n with
  | nil => rfl
  | cons r reads ih =>
    rw [readHeader]
    by_cases hstop : size = 0 ∨ s.complete
    · rw [if_pos hstop]
    · rw [if_neg hstop]
      by_cases hclosed : r.closed ∨ r.ret < 0
      · simp only [hclosed, if_true]
      · simp only [hclosed, if_false, ih]
        omega

theorem headerRead_of_session {u : UpdateEnv} {s : Session} (h : u.session = some s) :
    HeaderRead s := by
  refine ⟨state_of_session h, ?_⟩
  unfold UpdateEnv.session at h
  cases hbegin : espHttpsOtaBegin u.begin with
  | error err => simp [hbegin] at h
  | ok s₀ =>
    have htotal := readHeader_total s₀ imageHeaderSize 0 u.headerReads
    simp only [hbegin] at h
    split_ifs at h with hdesc hvalid
    obtain rfl := Option.some.inj h
    unfold espHttpsOtaGetImgDesc at hdesc ⊢
    rw [if_neg (by simp [state_of_begin hbegin])] at hdesc ⊢
    by_cases hmore : 0 < (readHeader s₀ imageHeaderSize 0 u.headerReads).2.1
    · simp [hmore, espFail, espOk] at hdesc
    · simp only [hmore, if_false]
      rw [Nat.eq_zero_of_not_pos hmore, Nat.zero_add] at htotal
      exact htotal

/-! ## No overflow -/

theorem evalProgress_notMem_posts (l : Loop) (p : Nat) (dl size : Int) :
    .evalProgress dl size ∉ l.posts p := by
  unfold Loop.posts
  split_ifs <;> simp

/-- Every `dl` of a download is between zero and the partition size and one header. -/
theorem evals_bounded (f : Flash) (w : World) {s : Session} (hs : HeaderRead s ∨ Counting f s)
    (l : Loop) (its : List Iter) (dl size : Int)
    (hmem : .evalProgress dl size ∈ (download f w s l its).2.1) :
    0 ≤ dl ∧ dl ≤ f.part.size + 305 := by
  induction its generalizing w s l with
  | nil => simp [download] at hmem
  | cons it its ih =>
    obtain ⟨⟨s', err⟩, hperform⟩ : ∃ r, espHttpsOtaPerform f s it.perform = r := ⟨_, rfl⟩
    -- behind the first round that goes on, the session counts what it writes
    have hcounting : err = espErrHttpsOtaInProgress → Counting f s' := by
      intro herr
      have hcounts := perform_counts (f := f) (s := s) (p := it.perform) (by rw [hperform, herr])
      rw [hperform] at hcounts
      rcases hs with hs | hs
      · exact (hcounts.1 hs).1
      · exact (hcounts.2 hs).1
    have hdl : err = espErrHttpsOtaInProgress →
        0 ≤ espHttpsOtaGetImageLenRead s' ∧ espHttpsOtaGetImageLenRead s' ≤ f.part.size + 305 := by
      intro herr
      have hbound := (hcounting herr).bounded
      rw [imageLen_of_counting (hcounting herr)]
      exact ⟨by omega, by omega⟩
    rcases download_cons_cases f w s l it its hperform with
      ⟨-, h⟩ | ⟨-, -, h⟩ | ⟨-, herr, ⟨-, h⟩ | ⟨l', -, ⟨-, h⟩ | ⟨-, progress, rest, -, hrest, h⟩⟩⟩
    · simp [h] at hmem
    · simp [h] at hmem
    · simp [h] at hmem
    · simp only [h, List.mem_singleton, Output.evalProgress.injEq] at hmem
      rw [hmem.1]
      exact hdl herr
    · rw [h, List.cons_append, List.mem_cons, List.mem_append] at hmem
      rcases hmem with heq | hpost | hin
      · rw [(Output.evalProgress.inj heq).1]
        exact hdl herr
      · exact absurd hpost (evalProgress_notMem_posts _ _ _ _)
      · rw [hrest] at hin
        exact ih _ (Or.inr (hcounting herr)) _ hin

def NoOverflow (outs : List Output) : Prop :=
  ∀ dl size, .evalProgress dl size ∈ outs → -2 ^ 31 ≤ dl * 100 ∧ dl * 100 < 2 ^ 31

theorem finish_not_progress (w : World) (u : UpdateEnv) (s : Session) (err : Int) :
    ∀ o ∈ (w.finish u s err).2, ¬ o.IsProgress := by
  unfold World.finish
  by_cases hcomplete : s.complete
  · by_cases hok : err = espOk ∧ (espHttpsOtaFinish u.flash s u.finish).1 = espOk
    · simp only [hcomplete, not_true, if_false, hok]
      simp [or_imp, forall_and, Output.IsProgress]
    · simp only [hcomplete, not_true, if_false, hok]
      simp [or_imp, forall_and, Output.IsProgress]
  · simp [hcomplete, World.otaEnd, Output.IsProgress]

theorem update_outs (w : World) (u : UpdateEnv) :
    (∀ o ∈ (updateFirmware w u).2, ¬ o.IsProgress)
      ∨ ∃ s tail, u.lockTaken = true ∧ u.session = some s
        ∧ (updateFirmware w u).2 = (download u.flash w.begun s u.loop u.iters).2.1 ++ tail
        ∧ ∀ o ∈ tail, ¬ o.IsProgress := by
  by_cases hlock : u.lockTaken
  · rcases updateFirmware_cases (w := w) hlock with
      ⟨-, -, h⟩ | ⟨-, ⟨-, h⟩ | ⟨s, w', outs, exit, hsess, -, hdown, h⟩⟩
    · rw [h]
      exact Or.inl (by simp [World.otaEnd, Output.IsProgress])
    · rw [h]
      exact Or.inl (by simp [World.otaEnd, Output.IsProgress])
    · refine Or.inr ⟨s, ?_⟩
      rw [hdown]
      rcases h with ⟨-, h⟩ | ⟨-, h⟩ | ⟨s', err, -, h⟩
      · exact ⟨_, hlock, hsess, by rw [h], by simp [Output.IsProgress]⟩
      · exact ⟨_, hlock, hsess, by rw [h], by simp [World.otaEnd, Output.IsProgress]⟩
      · exact ⟨_, hlock, hsess, by rw [h], finish_not_progress w' u s' err⟩
  · exact Or.inl (by simp [updateFirmware, hlock, Output.IsProgress])

/-- No call overflows: the flash takes no more than the partition holds. -/
theorem noOverflow_step (w : World) (c : Call) : NoOverflow (w.step c).2 := by
  intro dl size hmem
  unfold World.step at hmem
  by_cases hhalt : w.halted
  · simp [hhalt] at hmem
  · rw [if_neg hhalt] at hmem
    cases c with
    | info i =>
      exfalso
      have hinfo : .evalProgress dl size ∈ (updateFirmwareInfo w i).2 := hmem
      unfold updateFirmwareInfo at hinfo
      split_ifs at hinfo <;> simp at hinfo
    | update u =>
      rcases update_outs w u with hnone | ⟨s, tail, -, hsess, houts, htail⟩
      · exact absurd trivial (hnone _ hmem)
      · rw [show (updateFirmware w u).2 = _ from houts, List.mem_append] at hmem
        have hin := hmem.resolve_right fun h => absurd trivial (htail _ h)
        have hbound := evals_bounded u.flash w.begun (Or.inl (headerRead_of_session hsess)) u.loop
          u.iters dl size hin
        have hsize := u.flash.part.hsize
        omega

/-! ## The progress shown -/

def posted (outs : List Output) : List Nat :=
  outs.filterMap fun o =>
    match o with
    | .postProgress p => some p
    | _ => none

/-- Progress as it should be: divided by `size`, which is not zero, and posted from `low` up
to 100, never down. -/
structure Climbs (size low : Nat) (outs : List Output) : Prop where
  evals : ∀ dl sz : Int, .evalProgress dl sz ∈ outs → sz ≠ 0 ∧ sz = size
  range : ∀ p ∈ posted outs, low ≤ p ∧ p ≤ 100
  sorted : (posted outs).Pairwise (· ≤ ·)

theorem climbs_nil (size low : Nat) : Climbs size low [] where
  evals := by simp
  range := by simp [posted]
  sorted := List.Pairwise.nil

theorem posted_posts (l : Loop) (p : Nat) : posted (l.posts p) = [p] ∨ posted (l.posts p) = [] := by
  unfold Loop.posts
  split_ifs
  · exact Or.inl rfl
  · exact Or.inr rfl

theorem Climbs.cons {size low p : Nat} {outs : List Output} (hpos : 0 < size) (hlow : low ≤ p)
    (hp : p ≤ 100) (h : Climbs size p outs) (dl : Int) (l : Loop) :
    Climbs size low (.evalProgress dl size :: l.posts p ++ outs) := by
  have hposted : posted (.evalProgress dl size :: l.posts p ++ outs)
      = posted (l.posts p) ++ posted outs := by
    simp [posted, List.filterMap_append]
  refine ⟨?_, ?_, ?_⟩
  · intro dl' sz hmem
    rw [List.cons_append, List.mem_cons, List.mem_append] at hmem
    rcases hmem with heq | hpost | hin
    · have hsz : sz = size := (Output.evalProgress.inj heq).2
      exact ⟨by omega, hsz⟩
    · exact absurd hpost (evalProgress_notMem_posts _ _ _ _)
    · exact h.evals dl' sz hin
  · rw [hposted]
    intro q hq
    rcases List.mem_append.mp hq with hq | hq
    · rcases posted_posts l p with hone | hone
      · rw [hone, List.mem_singleton] at hq
        omega
      · simp [hone] at hq
    · have hrange := h.range q hq
      omega
  · rw [hposted, List.pairwise_append]
    refine ⟨?_, h.sorted, ?_⟩
    · rcases posted_posts l p with hone | hone <;> simp [hone]
    · intro a ha b hb
      have hrange := h.range b hb
      rcases posted_posts l p with hone | hone
      · rw [hone, List.mem_singleton] at ha
        omega
      · simp [hone] at ha

theorem progressOf_eq {n size : Nat} (hpos : 0 < size) (hn : n * 100 < 2 ^ 31)
    (hle : 100 * n < 101 * size) :
    progressOf n size = n * 100 / size ∧ n * 100 / size ≤ 100 := by
  have hq : n * 100 / size ≤ 100 := by
    rw [← Nat.lt_succ_iff, Nat.div_lt_iff_lt_mul hpos]
    omega
  refine ⟨?_, hq⟩
  have hwrap : wrap32 ((n : Int) * 100) = ((n * 100 : Nat) : Int) := by
    rw [wrap32_eq (by omega) (by omega)]
    omega
  unfold progressOf
  rw [hwrap, Int.natCast_tdiv_eq_ediv, ← Int.natCast_ediv]
  generalize n * 100 / size = q at hq
  omega

/-- **The download loop climbs** from the counter it starts with, when the size is settled
and the counter ends below 101 hundredths of it. Induction on the rounds. -/
theorem download_climbs (f : Flash) {w : World} (hset : w.Settled) {size : Nat}
    (hsize : w.size = size) (hpos : 0 < size) {s : Session} (hs : Counting f s) (l : Loop)
    (its : List Iter)
    (hend : 100 * (s.binaryFileLen + (its.map (·.perform.bytes)).sum) < 101 * size) :
    Climbs size (s.binaryFileLen * 100 / size) (download f w s l its).2.1 := by
  induction its generalizing s l with
  | nil => exact climbs_nil _ _
  | cons it its ih =>
    rw [List.map_cons, List.sum_cons] at hend
    have hfetch := fetchSize_of_settled hset it.fetch
    obtain ⟨⟨s', err⟩, hperform⟩ : ∃ r, espHttpsOtaPerform f s it.perform = r := ⟨_, rfl⟩
    rcases download_cons_cases f w s l it its hperform with
      ⟨-, h⟩ | ⟨-, -, h⟩ | ⟨-, herr, ⟨-, h⟩ | ⟨l', -, ⟨hzero, -⟩ | ⟨-, progress, rest, hprog, hrest,
        h⟩⟩⟩
    · rw [h]; exact climbs_nil _ _
    · rw [h]; exact climbs_nil _ _
    · rw [h]; exact climbs_nil _ _
    · rw [hfetch, hsize] at hzero
      omega
    · have hcounts := (perform_counts (f := f) (s := s) (p := it.perform)
        (by rw [hperform, herr])).2 hs
      rw [hperform] at hcounts
      obtain ⟨hs', hlen⟩ : Counting f s' ∧ s'.binaryFileLen = s.binaryFileLen + it.perform.bytes :=
        hcounts
      have hbound := hs'.bounded
      have hflash := f.part.hsize
      obtain ⟨hexact, hle⟩ := progressOf_eq (n := s'.binaryFileLen) hpos (by omega) (by omega)
      rw [imageLen_of_counting hs', hfetch, hsize, hexact] at hprog
      -- the counter only grows, and so does the quotient by one size
      have hclimb := ih hs' { l' with lastProgress := progress } (by omega)
      rw [hfetch] at hrest
      rw [← hrest] at hclimb
      rw [h, hfetch, hsize, hprog]
      rw [← hprog] at hclimb ⊢
      refine Climbs.cons hpos ?_ (by omega) hclimb _ l'
      rw [hprog]
      exact Nat.div_le_div_right (by omega)

/-- The image bytes that the reads of a call bring: the header, and what the rounds behind
the first one read. -/
def UpdateEnv.received (u : UpdateEnv) : Nat :=
  imageHeaderSize + ((u.iters.drop 1).map (·.perform.bytes)).sum

/-- If the first round of the call gets as far as the division, `size` is the size of this
call's image, and the image is so long that a second header does not lift the counter to 101
hundredths of it. -/
def SizeKnown (w : World) (u : UpdateEnv) : Prop :=
  ∀ s it its, u.lockTaken = true → u.session = some s → u.iters = it :: its →
    ¬ u.loop.tBreak < it.now →
    (espHttpsOtaPerform u.flash s it.perform).2 = espErrHttpsOtaInProgress →
    (w.begun.fetchSize it.fetch).size = u.imageSize
      ∧ 100 * (u.received + imageHeaderSize) < 101 * u.imageSize

/-- The loop of a call climbs from zero: its first round counts two headers, and
`download_climbs` takes over behind it. -/
theorem call_climbs {w : World} {u : UpdateEnv} (hknown : SizeKnown w u)
    (hlock : u.lockTaken = true) {s : Session} (hsess : u.session = some s) :
    Climbs u.imageSize 0 (download u.flash w.begun s u.loop u.iters).2.1 := by
  have hread := headerRead_of_session hsess
  cases hiters : u.iters with
  | nil => exact climbs_nil _ _
  | cons it its =>
    obtain ⟨⟨s', err⟩, hperform⟩ : ∃ r, espHttpsOtaPerform u.flash s it.perform = r := ⟨_, rfl⟩
    rcases download_cons_cases u.flash w.begun s u.loop it its hperform with
      ⟨-, h⟩ | ⟨-, -, h⟩ | ⟨htime, herr, ⟨-, h⟩ | ⟨l', -, hdivides⟩⟩
    · rw [h]; exact climbs_nil _ _
    · rw [h]; exact climbs_nil _ _
    · rw [h]; exact climbs_nil _ _
    · -- the division is reached, so the size is known
      have hfirst : (espHttpsOtaPerform u.flash s it.perform).2 = espErrHttpsOtaInProgress := by
        rw [hperform, herr]
      obtain ⟨hsize, hlong⟩ := hknown s it its hlock hsess hiters htime hfirst
      have hreceived : u.received = imageHeaderSize + (its.map (·.perform.bytes)).sum := by
        rw [UpdateEnv.received, hiters, List.drop_one, List.tail_cons]
      have hpos : 0 < u.imageSize := by omega
      rcases hdivides with ⟨hzero, -⟩ | ⟨-, progress, rest, hprog, hrest, h⟩
      · omega
      · have hcounts := (perform_counts hfirst).1 hread
        rw [hperform, hread.2] at hcounts
        obtain ⟨hs', hlen⟩ : Counting u.flash s'
            ∧ s'.binaryFileLen = imageHeaderSize + imageHeaderSize := hcounts
        have hbound := hs'.bounded
        have hflash := u.flash.part.hsize
        obtain ⟨hexact, hle⟩ :=
          progressOf_eq (n := s'.binaryFileLen) hpos (by omega) (by omega)
        rw [imageLen_of_counting hs', hsize, hexact] at hprog
        -- from here on the size is settled
        have hclimb := download_climbs u.flash (settled_fetchSize w.begun it.fetch) hsize hpos hs'
          { l' with lastProgress := progress } its (by omega)
        rw [← hrest, ← hprog] at hclimb
        rw [h, hsize]
        exact Climbs.cons hpos (Nat.zero_le _) (by omega) hclimb _ l'

/-! ## Whole runs -/

theorem posted_eq_nil {outs : List Output} (h : ∀ o ∈ outs, ¬ o.IsProgress) : posted outs = [] := by
  rw [posted, List.filterMap_eq_nil_iff]
  intro o ho
  cases o with
  | postProgress p => exact absurd trivial (h _ ho)
  | _ => rfl

theorem Climbs.append_tail {size low : Nat} {outs tail : List Output} (h : Climbs size low outs)
    (htail : ∀ o ∈ tail, ¬ o.IsProgress) : Climbs size low (outs ++ tail) := by
  have hposted : posted (outs ++ tail) = posted outs := by
    rw [posted, List.filterMap_append, ← posted, ← posted, posted_eq_nil htail, List.append_nil]
  refine ⟨?_, by rw [hposted]; exact h.range, by rw [hposted]; exact h.sorted⟩
  intro dl sz hmem
  rcases List.mem_append.mp hmem with hin | hin
  · exact h.evals dl sz hin
  · exact absurd trivial (htail _ hin)

/-- What one call promises: no overflow, and a download that climbs from 0 to 100 over the
size of its own image. -/
def ProgressContract (w : World) (c : Call) : Prop :=
  NoOverflow (w.step c).2
    ∧ match c with
      | .info _ => True
      | .update u => Climbs u.imageSize 0 (w.step c).2

def KnowsSize (w : World) : Call → Prop
  | .info _ => True
  | .update u => w.halted = false → SizeKnown w u

theorem contract_of_knowsSize {w : World} {c : Call} (h : KnowsSize w c) : ProgressContract w c := by
  refine ⟨noOverflow_step w c, ?_⟩
  cases c with
  | info i => trivial
  | update u =>
    show Climbs u.imageSize 0 (w.step (.update u)).2
    unfold World.step
    cases hhalt : w.halted with
    | true => exact climbs_nil _ _
    | false =>
      rcases update_outs w u with hnone | ⟨s, tail, hlock, hsess, houts, htail⟩
      · exact (climbs_nil _ _).append_tail hnone
      · rw [if_neg (by decide), show (updateFirmware w u).2 = _ from houts]
        exact (call_climbs (h hhalt) hlock hsess).append_tail htail

/-- No call of any run overflows, and in every run whose downloads know the size of their
image each download divides by that size and climbs from 0 to 100. -/
theorem progress_run (w : World) (cs : List Call) :
    AllSteps World.step (fun w c => NoOverflow (w.step c).2) w cs
      ∧ (AllSteps World.step KnowsSize w cs → AllSteps World.step ProgressContract w cs) :=
  ⟨AllSteps.of_forall noOverflow_step w cs, AllSteps.mono fun _ _ => contract_of_knowsSize⟩

/-- A check, then a download of 40000 bytes whose size request is answered. -/
theorem progress_run_check_download :
    AllSteps World.step ProgressContract {}
      [.info {},
        .update
          { sampleUpdate with
            iters :=
              [{ now := 0, fetch := .headers 40000 },
                { now := 0, perform := { read := { ret := 4096 } } },
                { now := 0, perform := { read := { ret := 4096 } } }]
            imageSize := 40000 }] := by
  refine (progress_run {} _).2 ⟨trivial, fun _ => ?_, trivial⟩
  intro s it its _ _ hits _ _
  obtain ⟨rfl, -⟩ := List.cons.inj hits
  exact ⟨by decide, by decide⟩

/-- A check, then a download. When the request for the size is answered without a length,
the first round divides by zero; when it is answered with 389, these 389 bytes count as 678
and the progress goes to 174. -/
theorem progress_contract_broken :
    (¬ AllSteps World.step ProgressContract {}
        [.info {}, .update { sampleUpdate with iters := [{ now := 0, fetch := .headers 0 }] }])
      ∧ ¬ AllSteps World.step ProgressContract {} [.info {}, .update sampleUpdate] := by
  constructor
  · rintro ⟨-, ⟨-, hclimbs⟩, -⟩
    exact absurd rfl (hclimbs.evals 578 0 (by decide)).1
  · rintro ⟨-, ⟨-, hclimbs⟩, -⟩
    exact absurd (hclimbs.range 174 (by decide)) (by decide)

end ControlFan.Ota
