import Mathlib.Data.List.Count
import ControlFan.Ota.Drive

/-!
# Ota — how a download ends

Every exit of `otadrive_updateFirmware`, and what it leaves behind.

* **`perform_spec`**, **`download_spec`** — the facts about one `esp_https_ota_perform` and
  about the whole download loop that the exits depend on;
* **`updateFirmware_cases`** — everything a call can do;
* **`outcome_iff`** — a call keeps the outcome contract (FINISH_UPDATE and a restart for an
  installed image, UPDATE_FAILED, an unlocked driver and the old boot selection for
  everything else) exactly when no size of zero is divided by and
  `esp_ota_set_boot_partition` succeeds on an accepted image.
-/

namespace ControlFan.Ota

/-! ## One `esp_https_ota_perform` -/

theorem otaWrite_spec (f : Flash) (s : Session) (size : Nat) (r₁ r₂ : FlashResult) :
    (otaWrite f s size r₁ r₂).1.state = s.state ∧ (otaWrite f s size r₁ r₂).2 ≠ espOk := by
  unfold otaWrite
  cases s.entry with
  | none => exact ⟨rfl, show espErrInvalidArg ≠ espOk by decide⟩
  | some e =>
    by_cases herr : (espOtaWrite f e s.first size r₁ r₂).2 = espOk
    · simp [herr, espOk, espErrHttpsOtaInProgress]
    · simp [herr]

theorem performRead_spec {f : Flash} {s : Session} {p : PerformEnv} (hs : s.state ≠ .success) :
    ((performRead f s p).2 = espOk →
        (performRead f s p).1.state = .success ∧ (performRead f s p).1.complete = true)
      ∧ ((performRead f s p).2 ≠ espOk → (performRead f s p).1.state ≠ .success) := by
  unfold performRead
  by_cases h0 : p.read.ret = 0
  · by_cases hcomplete : p.read.complete
    · simp [h0, hcomplete]
    · by_cases hclosed : p.read.closed <;>
        simp [h0, hcomplete, hclosed, hs, espOk, espFail, espErrHttpsOtaInProgress]
  · by_cases hpos : 0 < p.read.ret
    · obtain ⟨hstate, herr⟩ := otaWrite_spec f
        { s with complete := p.read.complete, first := p.read.first } p.bytes p.write₁ p.write₂
      simp only [h0, hpos, if_true, if_false]
      exact ⟨fun hok => absurd hok herr, fun _ => by rw [hstate]; exact hs⟩
    · simp [h0, hpos, hs, espOk, espFail]

/-- A session is successful exactly when `esp_https_ota_perform` returned ESP_OK, and then
its data is complete. -/
theorem perform_spec {f : Flash} {s : Session} {p : PerformEnv} (hs : s.state ≠ .success) :
    ((espHttpsOtaPerform f s p).2 = espOk →
        (espHttpsOtaPerform f s p).1.state = .success
          ∧ (espHttpsOtaPerform f s p).1.complete = true)
      ∧ ((espHttpsOtaPerform f s p).2 ≠ espOk →
          (espHttpsOtaPerform f s p).1.state ≠ .success) := by
  unfold espHttpsOtaPerform
  cases hstate : s.state with
  | success => exact absurd hstate hs
  | init => simp [hstate, espOk, espFail]
  | inProgress => exact performRead_spec hs
  | begin =>
    by_cases hbegin : espOtaBegin p.otaBegin = espOk
    · by_cases hlen : s.binaryFileLen = 0
      · simp only [hbegin, hlen, ne_eq, not_true, if_false]
        exact performRead_spec (by simp)
      · obtain ⟨hstate', herr⟩ := otaWrite_spec f
          { s with state := .inProgress, entry := some { erasedSize := f.part.size } }
          s.binaryFileLen p.write₁ p.write₂
        simp only [hbegin, hlen, ne_eq, not_true, not_false_eq_true, if_false, if_true]
        exact ⟨fun hok => absurd hok herr, fun _ => by rw [hstate']; simp⟩
    · simp only [hbegin, ne_eq, not_false_eq_true, if_true, false_implies, true_and, hstate]
      simp

/-! ## The download loop -/

def Output.IsProgress : Output → Prop
  | .evalProgress _ _ => True
  | .postProgress _ => True
  | _ => False

/-- The size is settled: there is no client to ask, or it was asked before. -/
def World.Settled (w : World) : Prop := ¬ (w.client ∧ w.lock = 1)

theorem fetchSize_of_settled {w : World} (h : w.Settled) (fetch : HeaderFetch) :
    w.fetchSize fetch = w := if_neg h

theorem settled_fetchSize (w : World) (fetch : HeaderFetch) : (w.fetchSize fetch).Settled := by
  unfold World.fetchSize
  by_cases h : w.client = true ∧ w.lock = 1
  · rw [if_pos h]
    rintro ⟨-, hlock⟩
    exact absurd hlock (show ¬ (0 : UInt8) = 1 by decide)
  · rw [if_neg h]
    exact h

/-- **One round of the loop**: the time is up, the session says something else than "in
progress", five rounds brought nothing, the size is zero, or the loop goes on. -/
theorem download_cons_cases (f : Flash) (w : World) (s : Session) (l : Loop) (it : Iter)
    (its : List Iter) {s' : Session} {err : Int}
    (hperform : espHttpsOtaPerform f s it.perform = (s', err)) :
    (l.tBreak < it.now ∧ download f w s l (it :: its) = (w, [], .otaEnd))
      ∨ (¬ l.tBreak < it.now ∧ err ≠ espErrHttpsOtaInProgress
          ∧ download f w s l (it :: its) = (w, [], .done s' err))
      ∨ (¬ l.tBreak < it.now ∧ err = espErrHttpsOtaInProgress
          ∧ ((l.count (espHttpsOtaGetImageLenRead s') it.later = none
                ∧ download f w s l (it :: its) = (w.fetchSize it.fetch, [], .otaEnd))
              ∨ ∃ l', l.count (espHttpsOtaGetImageLenRead s') it.later = some l'
                ∧ (((w.fetchSize it.fetch).size = 0
                      ∧ download f w s l (it :: its)
                        = (w.fetchSize it.fetch,
                            [.evalProgress (espHttpsOtaGetImageLenRead s') 0], .panic))
                    ∨ ((w.fetchSize it.fetch).size ≠ 0
                        ∧ ∃ progress rest,
                          progress = progressOf (espHttpsOtaGetImageLenRead s')
                            (w.fetchSize it.fetch).size
                          ∧ rest = download f (w.fetchSize it.fetch) s'
                            { l' with lastProgress := progress } its
                          ∧ download f w s l (it :: its)
                            = (rest.1,
                                .evalProgress (espHttpsOtaGetImageLenRead s')
                                    (w.fetchSize it.fetch).size
                                  :: l'.posts progress ++ rest.2.1,
                                rest.2.2))))) := by
  generalize hd : download f w s l (it :: its) = d
  rw [download] at hd
  by_cases htime : l.tBreak < it.now
  · rw [if_pos htime] at hd
    exact Or.inl ⟨htime, hd.symm⟩
  · rw [if_neg htime, hperform] at hd
    refine Or.inr ?_
    by_cases herr : err = espErrHttpsOtaInProgress
    · refine Or.inr ⟨htime, herr, ?_⟩
      simp only [herr, ne_eq, not_true, if_false] at hd
      cases hcount : l.count (espHttpsOtaGetImageLenRead s') it.later with
      | none =>
        rw [hcount] at hd
        exact Or.inl ⟨rfl, hd.symm⟩
      | some l' =>
        rw [hcount] at hd
        refine Or.inr ⟨l', rfl, ?_⟩
        by_cases hzero : (w.fetchSize it.fetch).size = 0
        · simp only [hzero, if_true] at hd
          exact Or.inl ⟨hzero, hd.symm⟩
        · simp only [hzero, if_false] at hd
          exact Or.inr ⟨hzero, _, _, rfl, rfl, hd.symm⟩
    · simp only [ne_eq, herr, not_false_eq_true, if_true] at hd
      exact Or.inl ⟨htime, herr, hd.symm⟩

/-- What the download loop does besides downloading: it may fetch the size, it shows its
progress, and it is left with a successful session only for ESP_OK. -/
structure Downloaded (w : World) (r : World × List Output × LoopExit) : Prop where
  world : ∃ lock size hdrVer, r.1 = { w with lock := lock, size := size, hdrVer := hdrVer }
  outs : ∀ o ∈ r.2.1, o.IsProgress
  ok : ∀ s, r.2.2 = .done s espOk → s.state = .success ∧ s.complete = true
  failed : ∀ s err, r.2.2 = .done s err → err ≠ espOk → s.state ≠ .success

theorem Downloaded.done {w : World} {s : Session} {err : Int}
    (hok : err = espOk → s.state = .success ∧ s.complete = true)
    (hfailed : err ≠ espOk → s.state ≠ .success) : Downloaded w (w, [], .done s err) where
  world := ⟨w.lock, w.size, w.hdrVer, rfl⟩
  outs := by simp
  ok := by
    rintro s' heq
    obtain ⟨rfl, rfl⟩ := LoopExit.done.inj heq
    exact hok rfl
  failed := by
    rintro s' err' heq hne
    obtain ⟨rfl, rfl⟩ := LoopExit.done.inj heq
    exact hfailed hne

theorem world_fetchSize (w : World) (fetch : HeaderFetch) :
    ∃ lock size hdrVer,
      w.fetchSize fetch = { w with lock := lock, size := size, hdrVer := hdrVer } := by
  unfold World.fetchSize
  split
  · exact ⟨_, _, _, rfl⟩
  · exact ⟨w.lock, w.size, w.hdrVer, rfl⟩

theorem isProgress_of_mem_posts {l : Loop} {progress : Nat} {o : Output}
    (ho : o ∈ l.posts progress) : o.IsProgress := by
  unfold Loop.posts at ho
  split at ho
  · obtain rfl := List.mem_singleton.mp ho
    trivial
  · simp at ho

/-- **The download loop**, by induction on its rounds. -/
theorem download_spec (f : Flash) (w : World) {s : Session} (hs : s.state ≠ .success) (l : Loop)
    (its : List Iter) : Downloaded w (download f w s l its) := by
  induction its generalizing w s l with
  | nil => exact Downloaded.done (fun h => absurd h (by decide)) (fun _ => hs)
  | cons it its ih =>
    obtain ⟨hok, hfailed⟩ := perform_spec (f := f) (p := it.perform) hs
    obtain ⟨lock, size, hdrVer, hfetch⟩ := world_fetchSize w it.fetch
    obtain ⟨⟨s', err⟩, hperform⟩ : ∃ r, espHttpsOtaPerform f s it.perform = r := ⟨_, rfl⟩
    rw [hperform] at hok hfailed
    rcases download_cons_cases f w s l it its hperform with
      ⟨-, h⟩ | ⟨-, -, h⟩ | ⟨-, herr, ⟨-, h⟩ | ⟨l', -, ⟨-, h⟩ | ⟨-, progress, rest, -, hrest, h⟩⟩⟩
    · rw [h]
      exact ⟨⟨w.lock, w.size, w.hdrVer, rfl⟩, by simp, by simp, by simp⟩
    · rw [h]
      exact Downloaded.done hok hfailed
    · rw [h]
      exact ⟨⟨lock, size, hdrVer, hfetch⟩, by simp, by simp, by simp⟩
    · rw [h]
      exact ⟨⟨lock, size, hdrVer, hfetch⟩, by simp [Output.IsProgress], by simp, by simp⟩
    · rw [h]
      have hnext : s'.state ≠ .success := hfailed (show err ≠ espOk by rw [herr]; decide)
      obtain ⟨⟨lock', size', hdrVer', hworld⟩, houts, hok', hfailed'⟩ :=
        hrest ▸ ih (w.fetchSize it.fetch) hnext { l' with lastProgress := progress }
      refine ⟨⟨lock', size', hdrVer', by rw [hworld, hfetch]⟩, ?_, hok', hfailed'⟩
      intro o ho
      rw [List.cons_append, List.mem_cons, List.mem_append] at ho
      rcases ho with rfl | ho | ho
      · trivial
      · exact isProgress_of_mem_posts ho
      · exact houts o ho

theorem not_panic_of_settled (f : Flash) {w : World} (hset : w.Settled) (hsize : w.size ≠ 0)
    (s : Session) (l : Loop) (its : List Iter) : (download f w s l its).2.2 ≠ .panic := by
  induction its generalizing s l with
  | nil => simp [download]
  | cons it its ih =>
    have hfetch := fetchSize_of_settled hset it.fetch
    obtain ⟨⟨s', err⟩, hperform⟩ : ∃ r, espHttpsOtaPerform f s it.perform = r := ⟨_, rfl⟩
    -- the rounds that end the loop end it otherwise
    rcases download_cons_cases f w s l it its hperform with
      ⟨-, h⟩ | ⟨-, -, h⟩ | ⟨-, -, ⟨-, h⟩ | ⟨l', -, ⟨hzero, -⟩ | ⟨-, progress, rest, -, hrest, h⟩⟩⟩
    · simp [h]
    · simp [h]
    · simp [h]
    · exact absurd (hfetch ▸ hzero) hsize
    · rw [h, hrest, hfetch]
      exact ih _ _

/-- The loop panics exactly when its first round gets as far as the division and the size is
zero there. -/
theorem panic_iff (f : Flash) (w : World) (s : Session) (l : Loop) (its : List Iter)
    (hfirst : l.lastDl = -1) :
    (download f w s l its).2.2 = .panic
      ↔ ∃ it rest, its = it :: rest ∧ ¬ l.tBreak < it.now
        ∧ (espHttpsOtaPerform f s it.perform).2 = espErrHttpsOtaInProgress
        ∧ (w.fetchSize it.fetch).size = 0 := by
  cases its with
  | nil => simp [download]
  | cons it its =>
    -- the first round never finds `dl` where it was
    have hcount : ∀ dl later, l.count dl later ≠ none := by simp [Loop.count, hfirst]
    obtain ⟨⟨s', err⟩, hperform⟩ : ∃ r, espHttpsOtaPerform f s it.perform = r := ⟨_, rfl⟩
    rcases download_cons_cases f w s l it its hperform with
      ⟨htime, h⟩ | ⟨-, herr, h⟩ | ⟨htime, herr, ⟨hnone, -⟩ | ⟨l', -, ⟨hzero, h⟩ |
        ⟨hsize, progress, rest, -, hrest, h⟩⟩⟩
    · simp [h, htime]
    · simp [h, hperform, herr]
    · exact absurd hnone (hcount _ _)
    · simpa [h, hperform, herr, hzero] using htime
    · have hno := not_panic_of_settled f (settled_fetchSize w it.fetch) hsize s'
        { l' with lastProgress := progress } its
      rw [← hrest] at hno
      simp [h, hno, hsize]

/-! ## The calls -/

theorem readHeader_state (s : Session) (size n : Nat) (reads : List HttpRead) :
    (readHeader s size n reads).1.state = s.state := by
  induction reads generalizing s size n with
  | nil => rfl
  | cons r reads ih =>
    rw [readHeader]
    by_cases hstop : size = 0 ∨ s.complete
    · rw [if_pos hstop]
    · rw [if_neg hstop]
      by_cases hclosed : r.closed ∨ r.ret < 0
      · simp only [hclosed, if_true]
      · simp only [hclosed, if_false, ih]

theorem getImgDesc_state (s : Session) (reads : List HttpRead) :
    (espHttpsOtaGetImgDesc s reads).1.state = s.state := by
  unfold espHttpsOtaGetImgDesc
  have hread := readHeader_state s imageHeaderSize 0 reads
  by_cases hinit : s.state = .init
  · rw [if_pos hinit]
  · by_cases hmore : 0 < (readHeader s imageHeaderSize 0 reads).2.1
    · simp only [hinit, if_false, hmore, if_true, hread]
    · simp only [hinit, if_false, hmore, hread]

theorem state_of_begin {b : BeginEnv} {s : Session} (h : espHttpsOtaBegin b = .ok s) :
    s.state = .begin := by
  unfold espHttpsOtaBegin at h
  split_ifs at h
  rw [← Except.ok.inj h]

theorem state_of_session {u : UpdateEnv} {s : Session} (h : u.session = some s) :
    s.state = .begin := by
  unfold UpdateEnv.session at h
  cases hbegin : espHttpsOtaBegin u.begin with
  | error err => simp [hbegin] at h
  | ok s₀ =>
    have hkeep := getImgDesc_state s₀ u.headerReads
    rw [state_of_begin hbegin] at hkeep
    simp only [hbegin] at h
    split_ifs at h
    rw [← Option.some.inj h]
    exact hkeep

/-- **Everything a call with the lock can do**: no session is begun, the session does not
reach the download loop, or it does and the loop is left in one of three ways. -/
theorem updateFirmware_cases {w : World} {u : UpdateEnv} (hlock : u.lockTaken = true) :
    ((∃ err, espHttpsOtaBegin u.begin = .error err) ∧ u.session = none
        ∧ updateFirmware w u = ({ w with otadrvLock := true } : World).otaEnd)
      ∨ ((∃ s₀, espHttpsOtaBegin u.begin = .ok s₀)
        ∧ ((u.session = none ∧ updateFirmware w u = w.begun.otaEnd)
          ∨ ∃ s w' outs exit, u.session = some s ∧ s.state = .begin
            ∧ download u.flash w.begun s u.loop u.iters = (w', outs, exit)
            ∧ ((exit = .panic ∧ updateFirmware w u = ({ w' with halted := true }, outs ++ [.panic]))
              ∨ (exit = .otaEnd ∧ updateFirmware w u = (w'.otaEnd.1, outs ++ w'.otaEnd.2))
              ∨ ∃ s' err, exit = .done s' err
                ∧ updateFirmware w u
                  = ((w'.finish u s' err).1, outs ++ (w'.finish u s' err).2)))) := by
  cases hbegin : espHttpsOtaBegin u.begin with
  | error err =>
    refine Or.inl ⟨⟨err, rfl⟩, by simp [UpdateEnv.session, hbegin], ?_⟩
    simp [updateFirmware, hlock, hbegin]
  | ok s₀ =>
    refine Or.inr ⟨⟨s₀, rfl⟩, ?_⟩
    cases hsess : u.session with
    | none => exact Or.inl ⟨rfl, by simp [updateFirmware, hlock, hbegin, hsess]⟩
    | some s =>
      obtain ⟨⟨w', outs, exit⟩, hdown⟩ : ∃ r, download u.flash w.begun s u.loop u.iters = r :=
        ⟨_, rfl⟩
      have hcall : updateFirmware w u = leaveLoop u (w', outs, exit) := by
        simp [updateFirmware, hlock, hbegin, hsess, hdown]
      refine Or.inr ⟨s, w', outs, exit, rfl, state_of_session hsess, hdown, ?_⟩
      cases exit with
      | panic => exact Or.inl ⟨rfl, hcall⟩
      | otaEnd => exact Or.inr (Or.inl ⟨rfl, hcall⟩)
      | done s' err => exact Or.inr (Or.inr ⟨s', err, rfl, hcall⟩)

/-! ## The outcome contract -/

/-- The image was received whole, accepted by `esp_ota_end`, and selected for booting. -/
def Installed (outs : List Output) : Prop :=
  .completeData true ∈ outs ∧ .otaEnd espOk ∈ outs ∧ .setBoot espOk ∈ outs

/-- The outcome contract, on the boot selection before a call, the state after it and its
outputs: exactly one of the two final events; FINISH_UPDATE and a restart for an installed
image; otherwise UPDATE_FAILED, the lock given back, the boot selection as before. -/
structure OutcomeContract (boot : Slot) (w : World) (outs : List Output) : Prop where
  one : outs.count (.post .finishUpdate) + outs.count (.post .updateFailed) = 1
  finish : (.post .finishUpdate ∈ outs ∧ .restart ∈ outs) ↔ Installed outs
  failed : ¬ Installed outs → .post .updateFailed ∈ outs ∧ .giveLock ∈ outs
    ∧ w.otadrvLock = false ∧ w.boot = boot

theorem outcomeContract_append {boot : Slot} {w : World} {outs outs' : List Output}
    (h : ∀ o ∈ outs, o.IsProgress) :
    OutcomeContract boot w (outs ++ outs') ↔ OutcomeContract boot w outs' := by
  have hmem : ∀ o, ¬ o.IsProgress → (o ∈ outs ++ outs' ↔ o ∈ outs') := by
    intro o ho
    rw [List.mem_append]
    exact ⟨fun hor => hor.resolve_left fun hin => ho (h o hin), Or.inr⟩
  have hcount : ∀ e, (outs ++ outs').count (.post e) = outs'.count (.post e) := by
    intro e
    rw [List.count_append, List.count_eq_zero.mpr fun hin => h (.post e) hin, Nat.zero_add]
  have hpost : ∀ e, .post e ∈ outs ++ outs' ↔ .post e ∈ outs' := fun e => hmem _ id
  have hrestart : .restart ∈ outs ++ outs' ↔ .restart ∈ outs' := hmem _ id
  have hgive : .giveLock ∈ outs ++ outs' ↔ .giveLock ∈ outs' := hmem _ id
  have hinst : Installed (outs ++ outs') ↔ Installed outs' := by
    unfold Installed
    rw [hmem _ id, hmem _ id, hmem _ id]
  constructor
  · intro ⟨hone, hfin, hfail⟩
    rw [hcount, hcount] at hone
    rw [hpost, hrestart, hinst] at hfin
    rw [hpost, hgive, hinst] at hfail
    exact ⟨hone, hfin, hfail⟩
  · intro ⟨hone, hfin, hfail⟩
    refine ⟨?_, ?_, ?_⟩
    · rwa [hcount, hcount]
    · rwa [hpost, hrestart, hinst]
    · rwa [hpost, hgive, hinst]

theorem contract_otaEnd (w : World) : OutcomeContract w.boot w.otaEnd.1 w.otaEnd.2 where
  one := rfl
  finish := by simp [World.otaEnd, Installed]
  failed := by simp [World.otaEnd]

/-- The first round of the download gets as far as `dl * 100 / size` with a size of zero. -/
def ZeroDivision (w : World) (u : UpdateEnv) : Prop :=
  ∃ s it its, u.session = some s ∧ u.iters = it :: its ∧ ¬ u.loop.tBreak < it.now
    ∧ (espHttpsOtaPerform u.flash s it.perform).2 = espErrHttpsOtaInProgress
    ∧ (w.begun.fetchSize it.fetch).size = 0

/-- The download ends with ESP_OK and `esp_ota_end` accepts the image. -/
def Accepted (w : World) (u : UpdateEnv) : Prop :=
  ∃ s₀ s, u.session = some s₀ ∧ (download u.flash w.begun s₀ u.loop u.iters).2.2 = .done s espOk
    ∧ espOtaEnd u.flash s.entry u.finish.write u.finish.verified = espOk

theorem contract_finish_failed {w : World} {u : UpdateEnv} {s : Session} {err : Int}
    (herr : err ≠ espOk) (hstate : s.state ≠ .success) :
    OutcomeContract w.boot (w.finish u s err).1 (w.finish u s err).2 := by
  have hno : (espHttpsOtaFinish u.flash s u.finish).2.2 = none := by
    unfold espHttpsOtaFinish
    cases hs : s.state with
    | success => exact absurd hs hstate
    | init => rfl
    | begin => rfl
    | inProgress => rfl
  unfold World.finish
  by_cases hcomplete : s.complete
  · cases hend : (espHttpsOtaFinish u.flash s u.finish).2.1 with
    | none =>
      simp only [hcomplete, not_true, if_false, hno, hend, herr, false_and]
      exact ⟨by decide, by simp [Installed], by simp⟩
    | some ret =>
      simp only [hcomplete, not_true, if_false, hno, hend, herr, false_and]
      exact ⟨by simp, by simp [Installed], by simp⟩
  · simp only [hcomplete, not_false_eq_true, if_true, Bool.false_eq_true]
    exact ⟨rfl, by simp [World.otaEnd, Installed], by simp [World.otaEnd]⟩

/-- Behind a download that ended with ESP_OK it is kept unless the swallowed error of
`esp_ota_set_boot_partition` lets an image that is not selected pass for installed. -/
theorem contract_finish_ok {w : World} {u : UpdateEnv} {s : Session}
    (hstate : s.state = .success) (hcomplete : s.complete = true) :
    OutcomeContract w.boot (w.finish u s espOk).1 (w.finish u s espOk).2
      ↔ (espOtaEnd u.flash s.entry u.finish.write u.finish.verified = espOk →
          u.finish.setBoot = espOk) := by
  unfold World.finish espHttpsOtaFinish
  by_cases hend : espOtaEnd u.flash s.entry u.finish.write u.finish.verified = espOk
  · by_cases hboot : u.finish.setBoot = espOk
    · simp only [hcomplete, not_true, if_false, hstate, hend, hboot, if_true, and_self,
        implies_true, iff_true]
      exact ⟨by decide, by simp [Installed], by simp [Installed]⟩
    · simp only [hcomplete, not_true, if_false, hstate, hend, hboot, if_true, and_self,
        true_implies, iff_false]
      rintro ⟨-, hfin, -⟩
      have hinst := hfin.mp (by simp)
      exact absurd hinst.2.2 (by simp [Ne.symm hboot])
  · simp only [hcomplete, not_true, if_false, hstate, hend, and_false, false_implies, iff_true]
    exact ⟨by simp, by simp [Installed], by simp⟩

theorem zeroDivision_iff {w : World} {u : UpdateEnv} {s : Session} (hsess : u.session = some s) :
    ZeroDivision w u ↔ (download u.flash w.begun s u.loop u.iters).2.2 = .panic := by
  rw [panic_iff u.flash w.begun s u.loop u.iters rfl]
  unfold ZeroDivision
  simp [hsess]

/-- A call that obtained the lock keeps the outcome contract if and only if it does not
divide by a size of zero and `esp_ota_set_boot_partition` does not fail on an image that
was accepted. -/
theorem outcome_iff (w : World) (u : UpdateEnv) (hlock : u.lockTaken = true) :
    OutcomeContract w.boot (updateFirmware w u).1 (updateFirmware w u).2
      ↔ ¬ ZeroDivision w u ∧ (Accepted w u → u.finish.setBoot = espOk) := by
  rcases updateFirmware_cases (w := w) hlock with
    ⟨-, hsess, h⟩ | ⟨-, ⟨hsess, h⟩ | ⟨s, w', outs, exit, hsess, hbegin, hdown, h⟩⟩
  · have hno : ¬ ZeroDivision w u := by rintro ⟨s, -, -, hs, -⟩; simp [hsess] at hs
    have hacc : ¬ Accepted w u := by rintro ⟨s, -, hs, -⟩; simp [hsess] at hs
    rw [h]
    exact iff_of_true (contract_otaEnd { w with otadrvLock := true })
      ⟨hno, fun hyes => absurd hyes hacc⟩
  · have hno : ¬ ZeroDivision w u := by rintro ⟨s, -, -, hs, -⟩; simp [hsess] at hs
    have hacc : ¬ Accepted w u := by rintro ⟨s, -, hs, -⟩; simp [hsess] at hs
    rw [h]
    exact iff_of_true (contract_otaEnd w.begun) ⟨hno, fun hyes => absurd hyes hacc⟩
  · have hspec := download_spec u.flash w.begun (s := s) (by simp [hbegin]) u.loop u.iters
    rw [hdown] at hspec
    obtain ⟨⟨lock, size, hdrVer, hworld⟩, houts, hok, hfailed⟩ := hspec
    have hboot : w'.boot = w.boot := by rw [show w' = _ from hworld]; rfl
    have hzero := zeroDivision_iff (w := w) hsess
    have haccepted : Accepted w u ↔ ∃ s', exit = .done s' espOk
        ∧ espOtaEnd u.flash s'.entry u.finish.write u.finish.verified = espOk := by
      unfold Accepted
      simp [hsess, hdown]
    rw [hdown] at hzero
    rcases h with ⟨rfl, h⟩ | ⟨rfl, h⟩ | ⟨s', err, rfl, h⟩
    · rw [h, outcomeContract_append houts]
      refine iff_of_false (fun hc => ?_) fun hc => hc.1 (hzero.mpr rfl)
      exact absurd hc.one (by simp)
    · rw [h, outcomeContract_append houts, ← hboot]
      refine iff_of_true (contract_otaEnd w') ⟨fun hz => absurd (hzero.mp hz) (by simp), ?_⟩
      intro hacc
      obtain ⟨s', hexit, -⟩ := haccepted.mp hacc
      exact absurd hexit (by simp)
    · have hno : ¬ ZeroDivision w u := fun hz => absurd (hzero.mp hz) (by simp)
      rw [h, outcomeContract_append houts, ← hboot]
      by_cases herr : err = espOk
      · subst herr
        obtain ⟨hstate, hcomplete⟩ := hok s' rfl
        rw [contract_finish_ok hstate hcomplete, haccepted]
        refine ⟨fun himp => ⟨hno, ?_⟩, fun hright hend => hright.2 ⟨s', rfl, hend⟩⟩
        rintro ⟨s'', hs'', hend⟩
        obtain ⟨rfl, -⟩ := LoopExit.done.inj hs''
        exact himp hend
      · refine iff_of_true (contract_finish_failed herr (hfailed s' err rfl herr)) ⟨hno, ?_⟩
        intro hacc
        obtain ⟨s'', hexit, -⟩ := haccepted.mp hacc
        exact absurd (LoopExit.done.inj hexit).2 herr

/-- A download of an image of 389 bytes: its header, 100 bytes more, the end. -/
def sampleUpdate : UpdateEnv :=
  { flash := { part := { size := 1048576, hpos := by decide, hsize := by decide } }
    headerReads := [{ ret := 289, first := 0xE9 }]
    iters :=
      [{ now := 0, fetch := .headers 389 },
        { now := 0, perform := { read := { ret := 100 } } },
        { now := 0, perform := { read := { ret := 0, complete := true } } }]
    imageSize := 389 }

/-- The sample is installed when every step succeeds. -/
theorem outcome_iff_sampleUpdate :
    OutcomeContract .running (updateFirmware { client := true } sampleUpdate).1
      (updateFirmware { client := true } sampleUpdate).2 := by
  refine (outcome_iff { client := true } sampleUpdate rfl).mpr ⟨?_, fun _ => rfl⟩
  rintro ⟨s, it, its, -, hits, -, -, hzero⟩
  obtain ⟨rfl, -⟩ := List.cons.inj hits
  exact absurd hzero (by decide)

/-- The sample with an `esp_ota_set_boot_partition` that does not find the OTA data: the
device announces success and restarts, with the old image still selected. -/
theorem swallowed_boot_error :
    ¬ OutcomeContract .running
        (updateFirmware { client := true }
          { sampleUpdate with finish := { setBoot := espErrNotFound } }).1
        (updateFirmware { client := true }
          { sampleUpdate with finish := { setBoot := espErrNotFound } }).2 := by
  intro h
  exact absurd (h.finish.mp ⟨by decide, by decide⟩).2.2 (by decide)

end ControlFan.Ota
