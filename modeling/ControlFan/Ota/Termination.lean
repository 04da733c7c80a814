import ControlFan.Ota.Progress

/-!
# Ota — the download loop is left

The loop of `otadrive_updateFirmware` waits for `esp_https_ota_perform` to say something
else than "in progress". Two counters keep it from waiting for ever: `fail_count`, which is
reset whenever the image length has grown, and the image length, which the update partition
bounds. `t_break` does not help, since every round that brings data moves it on.

* **`Top.round`** — one round, from the top of the loop to the next top or to an exit, and
  `download_exit`, that `download` is left where its rounds are;
* **`round_cases`** — a round that goes on has grown the image or counted a failure;
* **`download_terminates`** — the loop is left before five rounds for each byte of the
  partition, and after five rounds in a row that bring nothing.
-/

namespace ControlFan.Ota

open Machine

/-! ## One round -/

/-- What a round of the download loop starts with. -/
structure Top where
  world : World
  session : Session
  loop : Loop

def Top.round (f : Flash) (t : Top) (it : Iter) : Except LoopExit Top :=
  if t.loop.tBreak < it.now then .error .otaEnd
  else
    let (s, err) := espHttpsOtaPerform f t.session it.perform
    if err ≠ espErrHttpsOtaInProgress then .error (.done s err)
    else
      let dl := espHttpsOtaGetImageLenRead s
      let w := t.world.fetchSize it.fetch
      match t.loop.count dl it.later with
      | none => .error .otaEnd
      | some l =>
        if w.size = 0 then .error .panic
        else .ok ⟨w, s, { l with lastProgress := progressOf dl w.size }⟩

def Top.rounds (f : Flash) (t : Top) (its : List Iter) : Except LoopExit Top :=
  its.foldlM (Top.round f) t

/-- The top of the first round of a call whose session reaches the loop. -/
def UpdateEnv.top (u : UpdateEnv) (w : World) (s : Session) : Top := ⟨w.begun, s, u.loop⟩

/-- The exit of `download`, which takes the end of its rounds for a closed connection. -/
def exitOf : Except LoopExit Top → LoopExit
  | .ok t => .done t.session espFail
  | .error e => e

theorem rounds_cons (f : Flash) (t : Top) (it : Iter) (its : List Iter) :
    t.rounds f (it :: its) = t.round f it >>= fun t' => t'.rounds f its :=
  List.foldlM_cons

theorem rounds_append (f : Flash) (t : Top) (its its' : List Iter) :
    t.rounds f (its ++ its') = t.rounds f its >>= fun t' => t'.rounds f its' :=
  List.foldlM_append

/-- `download` is the fold of its rounds. Induction on the rounds. -/
theorem download_exit (f : Flash) (t : Top) (its : List Iter) :
    (download f t.world t.session t.loop its).2.2 = exitOf (t.rounds f its) := by
  induction its generalizing t with
  | nil => rfl
  | cons it its ih =>
    rw [rounds_cons, Top.round]
    obtain ⟨⟨s', err⟩, hperform⟩ : ∃ r, espHttpsOtaPerform f t.session it.perform = r := ⟨_, rfl⟩
    rcases download_cons_cases f t.world t.session t.loop it its hperform with
      ⟨htime, h⟩ | ⟨htime, herr, h⟩ | ⟨htime, herr, ⟨hcount, h⟩ | ⟨l', hcount, ⟨hzero, h⟩ | ⟨hzero,
        progress, rest, hprog, hrest, h⟩⟩⟩
    · rw [h, if_pos htime]
      rfl
    · rw [h, if_neg htime, hperform]
      simp only [if_pos herr]
      rfl
    · rw [h, if_neg htime, hperform]
      simp only [herr, ne_eq, not_true, if_false, hcount]
      rfl
    · rw [h, if_neg htime, hperform]
      simp only [herr, ne_eq, not_true, if_false, hcount, hzero, if_true]
      rfl
    · rw [h, if_neg htime, hperform]
      simp only [herr, ne_eq, not_true, if_false, hcount, hzero]
      rw [hrest, ← hprog]
      exact ih ⟨t.world.fetchSize it.fetch, s', { l' with lastProgress := progress }⟩

theorem round_ok {f : Flash} {t t' : Top} {it : Iter} (h : t.round f it = .ok t') :
    (espHttpsOtaPerform f t.session it.perform).2 = espErrHttpsOtaInProgress
      ∧ t'.session = (espHttpsOtaPerform f t.session it.perform).1
      ∧ t'.world = t.world.fetchSize it.fetch ∧ t'.world.size ≠ 0
      ∧ ∃ l, t.loop.count (espHttpsOtaGetImageLenRead t'.session) it.later = some l
        ∧ t'.loop.lastDl = l.lastDl ∧ t'.loop.failCount = l.failCount := by
  unfold Top.round at h
  by_cases htime : t.loop.tBreak < it.now
  · rw [if_pos htime] at h
    cases h
  · rw [if_neg htime] at h
    by_cases herr : (espHttpsOtaPerform f t.session it.perform).2 = espErrHttpsOtaInProgress
    · simp only [herr, ne_eq, not_true, if_false] at h
      cases hcount : t.loop.count
        (espHttpsOtaGetImageLenRead (espHttpsOtaPerform f t.session it.perform).1) it.later with
      | none =>
        simp only [hcount] at h
        cases h
      | some l =>
        simp only [hcount] at h
        by_cases hzero : (t.world.fetchSize it.fetch).size = 0
        · rw [if_pos hzero] at h
          cases h
        · rw [if_neg hzero] at h
          obtain rfl := Except.ok.inj h
          exact ⟨herr, rfl, rfl, hzero, l, hcount, rfl, rfl⟩
    · simp only [ne_eq, herr, not_false_eq_true, if_true] at h
      cases h

theorem count_some {l l' : Loop} {dl later : Int} (h : l.count dl later = some l') :
    l'.lastDl = dl
      ∧ ((l.lastDl ≠ -1 ∧ dl = l.lastDl ∧ l.failCount + 1 ≠ 5 ∧ l'.failCount = l.failCount + 1)
        ∨ (¬ (l.lastDl ≠ -1 ∧ dl = l.lastDl) ∧ l'.failCount = 0)) := by
  unfold Loop.count at h
  by_cases hsame : l.lastDl ≠ -1 ∧ dl = l.lastDl
  · rw [if_pos hsame] at h
    by_cases hfive : l.failCount + 1 = 5
    · rw [if_pos hfive] at h
      cases h
    · rw [if_neg hfive] at h
      obtain rfl := Option.some.inj h
      exact ⟨rfl, Or.inl ⟨hsame.1, hsame.2, hfive, rfl⟩⟩
  · rw [if_neg hsame] at h
    obtain rfl := Option.some.inj h
    exact ⟨rfl, Or.inr ⟨hsame, rfl⟩⟩

/-! ## What a round pays -/

def Top.imageLen (t : Top) : Int := espHttpsOtaGetImageLenRead t.session

/-- The top of the loop behind a round that went on. -/
structure Top.Later (f : Flash) (t : Top) : Prop where
  counting : Counting f t.session
  lastDl : t.loop.lastDl = t.imageLen
  failCount : 0 ≤ t.loop.failCount ∧ t.loop.failCount < 5
  settled : t.world.Settled
  size : t.world.size ≠ 0

def Top.Sound (f : Flash) (t : Top) : Prop :=
  (HeaderRead t.session ∧ t.loop.lastDl = -1 ∧ t.loop.failCount = 0) ∨ t.Later f

theorem Top.Later.imageLen_eq {f : Flash} {t : Top} (h : t.Later f) :
    t.imageLen = t.session.binaryFileLen := imageLen_of_counting h.counting

theorem imageLen_of_headerRead {t : Top} (h : HeaderRead t.session) : t.imageLen = -1 := by
  simp [Top.imageLen, espHttpsOtaGetImageLenRead, h.1]

theorem Top.Sound.lastDl {f : Flash} {t : Top} (h : t.Sound f) : t.loop.lastDl = t.imageLen := by
  rcases h with ⟨hread, hlast, -⟩ | hlater
  · rw [hlast, imageLen_of_headerRead hread]
  · exact hlater.lastDl

/-- **A round in progress** has added to the image length, or nothing: the first one adds
the header to a length of -1. -/
theorem perform_grows {f : Flash} {t : Top} (ht : t.Sound f) {p : PerformEnv}
    (h : (espHttpsOtaPerform f t.session p).2 = espErrHttpsOtaInProgress) :
    Counting f (espHttpsOtaPerform f t.session p).1
      ∧ (t.imageLen + 1 ≤ espHttpsOtaGetImageLenRead (espHttpsOtaPerform f t.session p).1
        ∨ (t.Later f
          ∧ espHttpsOtaGetImageLenRead (espHttpsOtaPerform f t.session p).1 = t.imageLen)) := by
  rcases ht with ⟨hread, -⟩ | hlater
  · obtain ⟨hcounting, hlen⟩ := (perform_counts h).1 hread
    refine ⟨hcounting, Or.inl ?_⟩
    rw [imageLen_of_counting hcounting, imageLen_of_headerRead hread]
    omega
  · obtain ⟨hcounting, hlen⟩ := (perform_counts h).2 hlater.counting
    refine ⟨hcounting, ?_⟩
    rw [imageLen_of_counting hcounting, hlater.imageLen_eq, hlen]
    rcases Nat.eq_zero_or_pos p.bytes with hzero | hpos
    · exact Or.inr ⟨hlater, by omega⟩
    · exact Or.inl (by omega)

/-- **A round that goes on** has grown the image length, or is counted as a failure. -/
theorem round_cases {f : Flash} {t t' : Top} {it : Iter} (ht : t.Sound f)
    (h : t.round f it = .ok t') :
    t'.Later f
      ∧ ((t.imageLen + 1 ≤ t'.imageLen ∧ t'.loop.failCount = 0)
        ∨ (t.Later f ∧ t'.imageLen = t.imageLen
          ∧ t'.loop.failCount = t.loop.failCount + 1)) := by
  obtain ⟨hperform, hsession, hworld, hsize, l, hcount, hlast, hfail⟩ := round_ok h
  obtain ⟨hcounting, hgrows⟩ := perform_grows ht hperform
  rw [← hsession] at hcounting hgrows
  change t.imageLen + 1 ≤ t'.imageLen ∨ (t.Later f ∧ t'.imageLen = t.imageLen) at hgrows
  obtain ⟨hdl, hcases⟩ := count_some hcount
  change (_ ∧ t'.imageLen = _ ∧ _) ∨ (¬ (_ ∧ t'.imageLen = _) ∧ _) at hcases
  rw [ht.lastDl, ← hfail] at hcases
  have hset : t'.world.Settled := by
    rw [hworld]
    exact settled_fetchSize _ _
  rcases hgrows with hgrows | ⟨hlater, hsame⟩
  · -- `dl` is not `last_dl`, so the count starts again
    rcases hcases with ⟨-, hsame, -⟩ | ⟨-, hzero⟩
    · omega
    · exact ⟨⟨hcounting, hlast.trans hdl, by omega, hset, hsize⟩, Or.inl ⟨hgrows, hzero⟩⟩
  · have hlen := hlater.imageLen_eq
    have hbounds := hlater.failCount
    rcases hcases with ⟨-, -, hfive, hnext⟩ | ⟨hdiff, -⟩
    · exact ⟨⟨hcounting, hlast.trans hdl, by omega, hset, hsize⟩,
        Or.inr ⟨hlater, hsame, hnext⟩⟩
    · exact absurd ⟨by omega, hsame⟩ hdiff

/-! ## The bound -/

/-- The rounds that are left: five for each byte that the image can still grow by, less the
failures counted since it last grew. -/
def Top.budget (f : Flash) (t : Top) : Nat :=
  (5 * (f.part.size + 305 - t.imageLen) + (5 - t.loop.failCount)).toNat

theorem Top.Sound.budget_eq {f : Flash} {t : Top} (h : t.Sound f) :
    (t.budget f : Int) = 5 * (f.part.size + 305 - t.imageLen) + (5 - t.loop.failCount)
      ∧ 0 ≤ t.loop.failCount ∧ t.loop.failCount < 5 := by
  unfold Top.budget
  rcases h with ⟨hread, -, hzero⟩ | hlater
  · rw [imageLen_of_headerRead hread, hzero]
    omega
  · have hbound := hlater.counting.bounded
    have hcount := hlater.failCount
    rw [hlater.imageLen_eq]
    omega

theorem budget_decreases {f : Flash} {t t' : Top} {it : Iter} (ht : t.Sound f)
    (h : t.round f it = .ok t') : t'.Sound f ∧ t'.budget f < t.budget f := by
  obtain ⟨hlater, hcases⟩ := round_cases ht h
  have ht' : t'.Sound f := Or.inr hlater
  refine ⟨ht', ?_⟩
  obtain ⟨hbudget, -, hcount⟩ := ht.budget_eq
  obtain ⟨hbudget', -, -⟩ := ht'.budget_eq
  rcases hcases with ⟨hgrows, hzero⟩ | ⟨-, hsame, hnext⟩
  · omega
  · omega

theorem rounds_ok {f : Flash} {t t' : Top} {its : List Iter} (ht : t.Sound f)
    (h : t.rounds f its = .ok t') : t'.Sound f ∧ its.length < t.budget f := by
  obtain ⟨ht', hle⟩ := length_add_le_of_measure (fun _ _ _ => budget_decreases) ht h
  obtain ⟨hbudget, -, hcount⟩ := ht'.budget_eq
  refine ⟨ht', ?_⟩
  rcases ht' with ⟨hread, -⟩ | hlater
  · rw [imageLen_of_headerRead hread] at hbudget
    omega
  · have hbound := hlater.counting.bounded
    rw [hlater.imageLen_eq] at hbudget
    omega

theorem sound_top {u : UpdateEnv} {s : Session} (h : u.session = some s) (w : World) :
    (u.top w s).Sound u.flash :=
  Or.inl ⟨headerRead_of_session h, rfl, rfl⟩

theorem budget_top {u : UpdateEnv} {s : Session} (h : u.session = some s) (w : World) :
    (u.top w s).budget u.flash = 5 * (u.flash.part.size + 307) := by
  obtain ⟨hbudget, -, -⟩ := (sound_top h w).budget_eq
  have hcount : (u.top w s).loop.failCount = 0 := rfl
  rw [imageLen_of_headerRead (headerRead_of_session h), hcount] at hbudget
  omega

/-! ## Rounds that bring nothing -/

/-- `esp_https_ota_perform` is in progress, and the image length is what it was. -/
def Idle (f : Flash) (t : Top) (it : Iter) : Prop :=
  (espHttpsOtaPerform f t.session it.perform).2 = espErrHttpsOtaInProgress
    ∧ espHttpsOtaGetImageLenRead (espHttpsOtaPerform f t.session it.perform).1 = t.imageLen

/-- Every round that the loop comes to is idle. -/
def IdleRounds (f : Flash) : Top → List Iter → Prop
  | _, [] => True
  | t, it :: its => Idle f t it ∧ ∀ t', t.round f it = .ok t' → IdleRounds f t' its

theorem idleRounds_cons {f : Flash} {t t' : Top} {it : Iter} {its : List Iter}
    (hidle : Idle f t it) (hround : t.round f it = .ok t') (h : IdleRounds f t' its) :
    IdleRounds f t (it :: its) := by
  refine ⟨hidle, fun t'' hround' => ?_⟩
  obtain rfl : t' = t'' := Except.ok.inj (hround.symm.trans hround')
  exact h

theorem round_of_idle {f : Flash} {t : Top} {it : Iter} (ht : t.Later f) (h : Idle f t it) :
    t.round f it = .error .otaEnd ∨ ∃ t', t.round f it = .ok t' := by
  obtain ⟨hperform, hlen⟩ := h
  unfold Top.round
  by_cases htime : t.loop.tBreak < it.now
  · exact Or.inl (if_pos htime)
  · rw [if_neg htime]
    simp only [hperform, ne_eq, not_true, if_false, fetchSize_of_settled ht.settled, ht.size]
    cases t.loop.count
        (espHttpsOtaGetImageLenRead (espHttpsOtaPerform f t.session it.perform).1) it.later with
    | none => exact Or.inl rfl
    | some l => exact Or.inr ⟨_, rfl⟩

/-- The fifth idle round in a row leaves the loop, if no earlier one does. Induction on the
rounds, with the failures counted before them. -/
theorem rounds_of_idle {f : Flash} {t : Top} (ht : t.Later f) {its : List Iter}
    (h : IdleRounds f t its) (hfive : 5 ≤ its.length + t.loop.failCount) :
    t.rounds f its = .error .otaEnd := by
  induction its generalizing t with
  | nil =>
    have hcount := ht.failCount
    rw [List.length_nil] at hfive
    omega
  | cons it its ih =>
    obtain ⟨hidle, hrest⟩ := h
    rw [rounds_cons]
    rcases round_of_idle ht hidle with hround | ⟨t', hround⟩
    · rw [hround]
      rfl
    · rw [hround]
      obtain ⟨hlater, hcases⟩ := round_cases (Or.inr ht) hround
      obtain ⟨-, hsession, -⟩ := round_ok hround
      have hsame : t'.imageLen = t.imageLen := by
        rw [Top.imageLen, hsession]
        exact hidle.2
      rcases hcases with ⟨hgrows, -⟩ | ⟨-, -, hnext⟩
      · omega
      · refine ih hlater (hrest t' hround) ?_
        rw [List.length_cons] at hfive
        push_cast at hfive
        omega

/-- The first round is never idle, so five idle ones leave the loop from every state. -/
theorem five_idle {f : Flash} {t : Top} (ht : t.Sound f) {its : List Iter}
    (hlen : its.length = 5) (h : IdleRounds f t its) : t.rounds f its = .error .otaEnd := by
  cases its with
  | nil => cases hlen
  | cons it its =>
    have hlater : t.Later f := by
      obtain ⟨⟨hperform, hsame⟩, -⟩ := h
      rcases (perform_grows ht hperform).2 with hgrows | ⟨hlater, -⟩
      · omega
      · exact hlater
    have hcount := hlater.failCount
    exact rounds_of_idle hlater h (by omega)

/-! ## The whole call -/

/-- How `otadrive_updateFirmware` ends at `ota_end`. -/
def Failed (outs : List Output) : Prop := [.post .updateFailed, .giveLock, .result {}] <:+ outs

theorem failed_of_otaEnd {w : World} {u : UpdateEnv} {s : Session} (hlock : u.lockTaken = true)
    (hsess : u.session = some s) (h : (download u.flash w.begun s u.loop u.iters).2.2 = .otaEnd) :
    Failed (updateFirmware w u).2 := by
  rcases updateFirmware_cases (w := w) hlock with
    ⟨-, hnone, -⟩ | ⟨-, ⟨hnone, -⟩ | ⟨s', w', outs, exit, hsess', -, hdown, hexit⟩⟩
  · rw [hsess] at hnone
    cases hnone
  · rw [hsess] at hnone
    cases hnone
  · obtain rfl : s = s' := Option.some.inj (hsess.symm.trans hsess')
    rw [hdown] at h
    obtain rfl : exit = .otaEnd := h
    rcases hexit with ⟨hpanic, -⟩ | ⟨-, hcall⟩ | ⟨s'', err, hdone, -⟩
    · cases hpanic
    · rw [hcall]
      exact List.suffix_append _ _
    · cases hdone

theorem download_exit_append {u : UpdateEnv} {w : World} {s : Session} {its : List Iter}
    {e : LoopExit} (h : (u.top w s).rounds u.flash its = .error e) (more : List Iter) :
    (download u.flash w.begun s u.loop (its ++ more)).2.2 = e := by
  apply (download_exit u.flash (u.top w s) (its ++ more)).trans
  rw [rounds_append, h]
  rfl

/-- **The download loop is left**, within five rounds for each byte that the image length
can take, whatever the reads and the clock give. Five rounds in a row that are in progress
and bring nothing end it with a failure; every other round in progress grows the image
length. -/
theorem download_terminates (w : World) (u : UpdateEnv) {s : Session}
    (hlock : u.lockTaken = true) (hsess : u.session = some s) :
    (∀ its, 5 * (u.flash.part.size + 307) ≤ its.length →
        ∃ e, (u.top w s).rounds u.flash its = .error e
          ∧ ∀ more, (download u.flash w.begun s u.loop (its ++ more)).2.2 = e)
      ∧ ∀ before t, (u.top w s).rounds u.flash before = .ok t →
        (∀ five more, five.length = 5 → IdleRounds u.flash t five →
            t.rounds u.flash five = .error .otaEnd
              ∧ Failed (updateFirmware w { u with iters := before ++ five ++ more }).2)
          ∧ ∀ it,
            (espHttpsOtaPerform u.flash t.session it.perform).2 = espErrHttpsOtaInProgress →
            ¬ Idle u.flash t it →
            t.imageLen + 1
              ≤ espHttpsOtaGetImageLenRead
                (espHttpsOtaPerform u.flash t.session it.perform).1 := by
  have htop := sound_top hsess w
  constructor
  · intro its hlen
    cases hrounds : (u.top w s).rounds u.flash its with
    | ok t =>
      have hless := (rounds_ok htop hrounds).2
      rw [budget_top hsess w] at hless
      omega
    | error e => exact ⟨e, rfl, download_exit_append hrounds⟩
  · intro before t hbefore
    obtain ⟨ht, -⟩ := rounds_ok htop hbefore
    constructor
    · intro five more hfive hidle
      have hend := five_idle ht hfive hidle
      refine ⟨hend, failed_of_otaEnd (s := s) hlock hsess ?_⟩
      refine download_exit_append (u := u) ?_ more
      rw [rounds_append, hbefore]
      exact hend
    · intro it hperform hidle
      rcases (perform_grows ht hperform).2 with hgrows | ⟨-, hsame⟩
      · exact hgrows
      · exact absurd ⟨hperform, hsame⟩ hidle

/-- A round that reads nothing. -/
def stalled : Iter := { now := 0, perform := { read := { ret := 0 } } }

/-- The sample with a connection that brings nothing behind the header. -/
theorem download_terminates_stalled :
    Failed (updateFirmware { client := true }
      { sampleUpdate with iters := [{ now := 0, fetch := .headers 389 }]
          ++ [stalled, stalled, stalled, stalled, stalled] ++ [] }).2 := by
  refine (((download_terminates { client := true } sampleUpdate rfl rfl).2 _ _ rfl).1 _ [] rfl
    ?_).2
  apply idleRounds_cons ⟨rfl, rfl⟩ rfl
  apply idleRounds_cons ⟨rfl, rfl⟩ rfl
  apply idleRounds_cons ⟨rfl, rfl⟩ rfl
  apply idleRounds_cons ⟨rfl, rfl⟩ rfl
  exact ⟨⟨rfl, rfl⟩, fun _ _ => trivial⟩

end ControlFan.Ota
