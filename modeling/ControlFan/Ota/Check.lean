import Mathlib.Data.List.Chain
import ControlFan.Lib.Machine
import ControlFan.Ota.Drive

/-!
# Ota — checks for new firmware: what they report and how often they are made

The version of a response travels through a global: `_http_event_handler` copies the value
of an `X-Version` header to `otadrv_hdl.result.hdr_ver`, all of whose 32 bytes may be used,
and `otadrive_updateFirmwareInfo` copies 31 of them to its result. `otadrive_setInfo` clears
the global, a new check does not. A check may get several responses: the client follows
redirections and answers a challenge before `esp_http_client_perform` returns, and hands on the
headers of each.

`otadrive_timeTick` is to say when the next check is due. It keeps the time of that in a
variable of its own, which every call sets to zero.

* **`foldl_httpEventHandler`** — the last `X-Version` header decides what the global holds;
* **`perform_response`** — the headers of the response that a check ends with come last;
* **`checks_run`** — the global after any sequence of checks;
* **`own_response_iff`** — a check reports the response it ends with, unless that is a 200 without
  a version and an earlier response has left one, or there were too many before it;
* **`rateLimited_iff`** — the calls of `otadrive_timeTick` keep their distance exactly when
  their callers do.
-/

namespace ControlFan.Ota

open CString Machine

/-- `otadrive_setInfo`, as far as the checks look at it. -/
def World.setInfo (w : World) (lockTaken : Bool) : World :=
  if ¬ lockTaken then w else { w with hdrVer := CArray.zero 32 }

/-- The world after `otadrive_setInfo` and a sequence of checks. -/
def World.checked (w : World) (is : List InfoEnv) : World :=
  (run World.step (w.setInfo true) (is.map .info)).1

/-! ## The version of a response -/

/-- The header is named `X-Version`, in upper or lower case. -/
def IsXVersion (header : Header) : Prop := cstr (header.1.map toLower) = xVersion.map toLower

instance (header : Header) : Decidable (IsXVersion header) := by
  unfold IsXVersion; infer_instance

def lastVersion (headers : List Header) : Option (List UInt8) :=
  (headers.filter fun h => IsXVersion h).getLast?.map Prod.snd

/-- The first 31 characters of a string, with a NUL behind them. -/
def version (src : List UInt8) : CArray 32 :=
  ⟨(cstr src).take 31 ++ List.replicate (32 - ((cstr src).take 31).length) 0, by
    simp only [List.length_append, List.length_take, List.length_replicate]
    omega⟩

/-- What a response says by itself. A check that ends with a redirection has followed too many. -/
def Response.result (r : Response) : OtadriveResult :=
  if r.statusCode = 200 then
    { code := 200
      availableVersion := version ((lastVersion r.headers).getD [])
      availableSize := r.contentLength }
  else if r.statusCode ∈ redirections then {}
  else if r.statusCode ∈ [304, 401, 404] then { code := r.statusCode }
  else { code := 404 }

/-- The limit of 20 characters is longer than the name. -/
theorem strncasecmp_xVersion (header : Header) :
    strncasecmp header.1 xVersion 20 = 0 ↔ IsXVersion header := by
  have hname : cstr ((xVersion.map toLower).take 20) = xVersion.map toLower := by decide
  have hlen : (xVersion.map toLower).length = 9 := by decide
  unfold strncasecmp IsXVersion
  rw [strncmp_eq_zero_iff, hname, cstr, takeWhile_take, ← cstr]
  constructor
  · intro h
    have hshort := congrArg List.length h
    rw [List.length_take, hlen] at hshort
    rw [← h, List.take_of_length_le (by omega)]
  · intro h
    rw [h, List.take_of_length_le (by omega)]

theorem lastVersion_append (headers headers' : List Header) :
    lastVersion (headers ++ headers') = (lastVersion headers').or (lastVersion headers) := by
  unfold lastVersion
  rw [List.filter_append, List.getLast?_append, Option.map_or]

/-- **The last `X-Version` header decides**, and without one the global stays as it is. -/
theorem foldl_httpEventHandler (headers : List Header) (hdrVer : CArray 32) :
    headers.foldl httpEventHandler hdrVer
      = ((lastVersion headers).map (strncpyZeroed 32 · 32)).getD hdrVer := by
  induction headers using List.reverseRecOn with
  | nil => rfl
  | append_singleton headers h ih =>
    rw [List.foldl_append, ih, lastVersion_append]
    show httpEventHandler _ h = _
    rw [httpEventHandler]
    rcases Decidable.em (IsXVersion h) with hx | hx
    · rw [if_pos ((strncasecmp_xVersion h).mpr hx)]
      simp [lastVersion, hx]
    · rw [if_neg (mt (strncasecmp_xVersion h).mp hx)]
      simp [lastVersion, hx]

theorem strncpyZeroed_eq_version (src : List UInt8) : strncpyZeroed 32 src 31 = version src :=
  CArray.ext (bytes_strncpyZeroed (by decide) src)

theorem cstr_version (src : List UInt8) : cstr (version src).bytes = (cstr src).take 31 := by
  rw [← strncpyZeroed_eq_version]
  exact cstr_strncpyZeroed (by decide) src

theorem version_congr {src src' : List UInt8} (h : (cstr src).take 31 = (cstr src').take 31) :
    version src = version src' := by
  apply CArray.ext
  simp only [version, h]

/-- The two copies, of 32 and of 31 bytes, keep the first 31 characters. -/
theorem copied_version (headers : List Header) :
    strncpyZeroed 32 (headers.foldl httpEventHandler (CArray.zero 32)).bytes 31
      = version ((lastVersion headers).getD []) := by
  rw [foldl_httpEventHandler, strncpyZeroed_eq_version]
  apply version_congr
  cases lastVersion headers with
  | none => decide
  | some v =>
    show (cstr (strncpyZeroed 32 v 32).bytes).take 31 = (cstr v).take 31
    rw [cstr_strncpyZeroed (by decide), List.take_take]
    rfl

theorem version_eq_empty_iff (src : List UInt8) : version src = version [] ↔ cstr src = [] := by
  constructor
  · intro h
    have hcstr := congrArg (cstr ·.bytes) h
    simp only [cstr_version, cstr_nil, List.take_nil, List.take_eq_nil_iff] at hcstr
    exact hcstr.resolve_left (by decide)
  · intro h
    apply version_congr
    rw [h, cstr_nil]

/-! ## The responses of a check -/

/-- The headers of all responses of a check. -/
def InfoEnv.dispatched (i : InfoEnv) : List Header := (espHttpClientPerform i.broken {} i.responses).1

/-- The response that a check ends with, and the result of `esp_http_client_perform`. -/
def InfoEnv.ending (i : InfoEnv) : Option Response × Int :=
  (espHttpClientPerform i.broken {} i.responses).2

/-- The result by the response that the check ends with. -/
def ownResult (i : InfoEnv) : OtadriveResult :=
  if i.lockTaken then i.ending.1.elim {} Response.result else {}

theorem redirected_checkResponse {c : HttpClient} {statusCode : Int}
    (h : statusCode ∈ redirections) (hok : (c.checkResponse statusCode).2.1 = espOk) :
    (c.checkResponse statusCode).2.2 = true := by
  have hrange : ¬ (200 ≤ statusCode ∧ statusCode < 300) := by
    simp only [redirections, List.mem_cons, List.not_mem_nil, or_false] at h
    omega
  unfold HttpClient.checkResponse at hok ⊢
  rw [if_neg hrange] at hok ⊢
  split_ifs at hok ⊢
  · exact absurd hok (show espErrHttpMaxRedirect ≠ espOk by decide)
  · rfl

/-- A response ends the call, a redirection only with an error, or the client asks again. -/
theorem perform_cons (broken : List Header) (c : HttpClient) (r : Response) (rs : List Response) :
    (∃ ret, espHttpClientPerform broken c (r :: rs) = (r.headers, some r, ret)
        ∧ (ret = espOk → r.statusCode ∉ redirections))
      ∨ ∃ c', espHttpClientPerform broken c (r :: rs)
        = (r.headers ++ (espHttpClientPerform broken c' rs).1,
            (espHttpClientPerform broken c' rs).2) := by
  rw [espHttpClientPerform]
  dsimp only
  split_ifs with hjoined hret hagain
  · exact Or.inr ⟨_, rfl⟩
  · exact Or.inl ⟨_, rfl, fun hok => absurd hok hret⟩
  · exact Or.inr ⟨_, rfl⟩
  · refine Or.inl ⟨_, rfl, fun _ hredirect => hagain ?_⟩
    exact redirected_checkResponse hredirect (not_not.mp hret)

/-- **The headers of the last response come last**, and it is no redirection unless there were too
many. Induction on the responses. -/
theorem perform_response {broken : List Header} {c : HttpClient} {rs : List Response} {r : Response}
    {ret : Int} (h : (espHttpClientPerform broken c rs).2 = (some r, ret)) :
    (∃ earlier, (espHttpClientPerform broken c rs).1 = earlier ++ r.headers)
      ∧ (ret = espOk → r.statusCode ∉ redirections) := by
  induction rs generalizing c with
  | nil => exact absurd (congrArg Prod.fst h).symm (Option.some_ne_none r)
  | cons r' rs ih =>
    rcases perform_cons broken c r' rs with ⟨ret', heq, hredirect⟩ | ⟨c', heq⟩
    · rw [heq] at h ⊢
      obtain ⟨hr, rfl⟩ := Prod.mk.inj h
      obtain rfl := Option.some.inj hr
      exact ⟨⟨[], (List.nil_append _).symm⟩, hredirect⟩
    · rw [heq] at h ⊢
      obtain ⟨⟨earlier, hearlier⟩, hredirect⟩ := ih h
      exact ⟨⟨r'.headers ++ earlier, by rw [hearlier, List.append_assoc]⟩, hredirect⟩

/-- Without a response there is an error. Induction on the responses. -/
theorem perform_none {broken : List Header} {c : HttpClient} {rs : List Response} {ret : Int}
    (h : (espHttpClientPerform broken c rs).2 = (none, ret)) : ret ≠ espOk := by
  induction rs generalizing c with
  | nil =>
    obtain rfl := (Prod.mk.inj h).2
    decide
  | cons r rs ih =>
    rcases perform_cons broken c r rs with ⟨ret', heq, -⟩ | ⟨c', heq⟩
    · rw [heq] at h
      exact absurd (Prod.mk.inj h).1 (Option.some_ne_none r)
    · rw [heq] at h
      exact ih h

/-! ## Sequences of checks -/

/-- `esp_http_client_perform(NULL)`. -/
def Crashes (i : InfoEnv) : Prop := i.lockTaken = true ∧ i.clientInit = false

/-- All headers that a sequence of checks has got. -/
def received (is : List InfoEnv) : List Header :=
  (is.filter (·.lockTaken)).flatMap InfoEnv.dispatched

/-- Everything a check can do. -/
theorem info_cases {w : World} (hrun : w.halted = false) (i : InfoEnv) :
    (i.lockTaken = false ∧ w.step (.info i) = (w, [.result {}]))
      ∨ (Crashes i ∧ (w.step (.info i)).1.halted = true
        ∧ (w.step (.info i)).2 = [.post .startCheck, .panic])
      ∨ (i.lockTaken = true ∧ i.clientInit = true ∧ (w.step (.info i)).1.halted = false
        ∧ (w.step (.info i)).1.hdrVer = i.dispatched.foldl httpEventHandler w.hdrVer
        ∧ (w.step (.info i)).2
          = [.post .startCheck, .giveLock,
              .result (if i.ending.2 = espOk
                then i.ending.1.elim {} (infoResult (i.dispatched.foldl httpEventHandler w.hdrVer))
                else {})]) := by
  rw [show w.step (.info i) = updateFirmwareInfo w i by simp [World.step, hrun]]
  unfold updateFirmwareInfo Crashes
  cases hlock : i.lockTaken with
  | false => exact Or.inl ⟨rfl, rfl⟩
  | true =>
    cases hinit : i.clientInit with
    | false => exact Or.inr (Or.inl ⟨⟨rfl, rfl⟩, rfl, rfl⟩)
    | true => exact Or.inr (Or.inr ⟨rfl, rfl, hrun, rfl, rfl⟩)

theorem halted_run {w : World} (h : w.halted = true) (cs : List Call) :
    (run World.step w cs).1.halted = true := by
  refine run_inv (I := fun w => w.halted = true) (C := fun _ _ => True) ?_ h
    (AllSteps.of_forall (fun _ _ => trivial) w cs)
  intro w c hw _
  rw [show w.step c = (w, []) from if_pos hw]
  exact hw

/-- **The global after any sequence of checks**: none has crashed the chip, and the last
`X-Version` header of all responses decides. Induction on the checks. -/
theorem checks_run {w : World} (hrun : w.halted = false) (is : List InfoEnv) :
    ((∃ i ∈ is, Crashes i) ∧ (run World.step w (is.map .info)).1.halted = true)
      ∨ ((∀ i ∈ is, ¬ Crashes i) ∧ (run World.step w (is.map .info)).1.halted = false
        ∧ (run World.step w (is.map .info)).1.hdrVer
          = (received is).foldl httpEventHandler w.hdrVer) := by
  induction is generalizing w with
  | nil => exact Or.inr ⟨fun _ h => absurd h List.not_mem_nil, hrun, rfl⟩
  | cons i is ih =>
    rw [List.map_cons, run_cons]
    rcases info_cases hrun i with
      ⟨hlock, hstep⟩ | ⟨hcrash, hhalt, -⟩ | ⟨hlock, hinit, hrun', hhdr, -⟩
    · have hno : ¬ Crashes i := fun h => absurd (hlock.symm.trans h.1) (by decide)
      have hrec : received (i :: is) = received is := by simp [received, hlock]
      rw [hstep, hrec]
      simpa [hno] using ih hrun
    · exact Or.inl ⟨⟨i, List.mem_cons_self, hcrash⟩, halted_run hhalt _⟩
    · have hno : ¬ Crashes i := fun h => absurd (hinit.symm.trans h.2) (by decide)
      have hrec : received (i :: is) = i.dispatched ++ received is := by simp [received, hlock]
      rw [hrec, List.foldl_append, ← hhdr]
      simpa [hno] using ih hrun'

/-! ## The own response -/

/-- A 200 without a version, and an earlier response has left one. -/
def Stale (is : List InfoEnv) (i : InfoEnv) (r : Response) : Prop :=
  i.ending.2 = espOk ∧ r.statusCode = 200 ∧ lastVersion r.headers = none
    ∧ ∃ v, lastVersion (received is ++ i.dispatched) = some v ∧ cstr v ≠ []

/-- A response that is not looked at, behind ten redirections or challenges. -/
def Exhausted (i : InfoEnv) (r : Response) : Prop :=
  i.ending.2 ≠ espOk ∧ r.statusCode ∉ redirections

/-- The responses before the last one of the check decide, too. -/
def Mixed (is : List InfoEnv) (i : InfoEnv) : Prop :=
  (∀ j ∈ is, ¬ Crashes j) ∧ i.lockTaken = true ∧ i.clientInit = true
    ∧ ∃ r, i.ending.1 = some r ∧ (Stale is i r ∨ Exhausted i r)

theorem infoResult_eq_result_iff {r : Response} (h : r.statusCode ∉ redirections)
    (hdrVer : CArray 32) :
    infoResult hdrVer r = r.result
      ↔ (r.statusCode = 200 →
          strncpyZeroed 32 hdrVer.bytes 31 = version ((lastVersion r.headers).getD [])) := by
  unfold infoResult Response.result
  rcases Decidable.em (r.statusCode = 200) with h200 | h200
  · simp [h200]
  · simp [h200, h]

theorem result_eq_empty_iff (r : Response) : {} = r.result ↔ r.statusCode ∈ redirections := by
  unfold Response.result
  split_ifs with h200 hredirect hcode
  · simp [h200, redirections]
  · simp [hredirect]
  · simp only [hredirect, iff_false, OtadriveResult.mk.injEq, not_and]
    rintro heq
    rw [← heq] at hcode
    exact absurd hcode (by decide)
  · simp [hredirect]

/-- The version of the last response is its own, or the one before it was empty. -/
theorem version_or_eq_iff (own earlier : Option (List UInt8)) :
    version ((own.or earlier).getD []) = version (own.getD [])
      ↔ ¬ (own = none ∧ ∃ v, earlier = some v ∧ cstr v ≠ []) := by
  cases own with
  | some v => simp
  | none =>
    cases earlier with
    | none => simp
    | some v =>
      rw [show (Option.or none (some v)).getD [] = v from rfl]
      simp [version_eq_empty_iff]

theorem forall_result_iff (r r' : OtadriveResult) :
    (∀ s, .result s ∈ [.post .startCheck, .giveLock, Output.result r] → s = r') ↔ r = r' := by
  simp

/-- The result with the global as the responses leave it. -/
theorem result_iff {is : List InfoEnv} {i : InfoEnv} {r : Response} {ret : Int}
    (hending : i.ending = (some r, ret)) :
    (if ret = espOk
        then infoResult ((received is ++ i.dispatched).foldl httpEventHandler (CArray.zero 32)) r
        else {}) = r.result
      ↔ ¬ (Stale is i r ∨ Exhausted i r) := by
  obtain ⟨⟨earlier, hlast⟩, hredirect⟩ := perform_response (hending : i.ending = _)
  have hlast : i.dispatched = earlier ++ r.headers := hlast
  have hversion : lastVersion (received is ++ i.dispatched)
      = (lastVersion r.headers).or (lastVersion (received is ++ earlier)) := by
    rw [hlast, ← List.append_assoc, lastVersion_append]
  unfold Stale Exhausted
  rw [show i.ending.2 = ret from congrArg Prod.snd hending]
  rcases eq_or_ne ret espOk with hok | herr
  · rw [if_pos hok, infoResult_eq_result_iff (hredirect hok), copied_version, hversion,
      version_or_eq_iff, ← not_and]
    refine not_congr ?_
    rw [or_iff_left fun h => h.1 hok, and_iff_right hok]
    refine and_congr_right fun _ => and_congr_right fun hnone => ?_
    rw [hnone, Option.none_or]
  · rw [if_neg herr, result_eq_empty_iff, or_iff_right fun h => herr h.1, and_iff_right herr,
      not_not]

/-- **A check reports its own response** — status, size and version are those of the response that
it ends with, whatever responses there were before, to earlier checks or, with a redirection or a
challenge, to this one — unless that response is a 200 without a version and an earlier one has
left a version, or it is not looked at behind too many redirections. -/
theorem own_response_iff {w : World} (hrun : w.halted = false) (is : List InfoEnv) (i : InfoEnv) :
    (∀ r, .result r ∈ ((w.checked is).step (.info i)).2 → r = ownResult i) ↔ ¬ Mixed is i := by
  unfold World.checked Mixed
  rcases checks_run (w := w.setInfo true) hrun is with
    ⟨⟨j, hj, hcrash⟩, hhalt⟩ | ⟨hsafe, hrun', hhdr⟩
  · -- the chip is down
    rw [show World.step _ (.info i) = (_, []) from if_pos hhalt]
    simp only [List.not_mem_nil, false_implies, implies_true, true_iff]
    exact fun hmixed => hmixed.1 j hj hcrash
  · rcases info_cases hrun' i with ⟨hlock, hstep⟩ | ⟨hcrash, -, houts⟩ | ⟨hlock, hinit, -, -, houts⟩
    · simp [hstep, hlock, ownResult]
    · simp [houts, hcrash.2]
    · have hclear : (w.setInfo true).hdrVer = CArray.zero 32 := rfl
      rw [houts, hhdr, ← List.foldl_append, hclear, forall_result_iff, ownResult, if_pos hlock]
      obtain ⟨⟨response, ret⟩, hending⟩ : ∃ ending, i.ending = ending := ⟨_, rfl⟩
      rw [hending]
      cases response with
      | none =>
        have herr : ret ≠ espOk := perform_none (hending : i.ending = _)
        simp [herr]
      | some r =>
        dsimp only [Option.elim_some]
        rw [result_iff hending]
        refine not_congr ⟨fun h => ⟨hsafe, hlock, hinit, r, rfl, h⟩, ?_⟩
        rintro ⟨-, -, -, r', hr', h⟩
        exact Option.some.inj hr' ▸ h

/-- A response with a version. -/
def versioned (v : List UInt8) (statusCode : Int) : Response :=
  { headers := [(xVersion, v)], statusCode := statusCode }

/-- Two checks whose responses have a version each, the second one behind a redirection with a
version of its own: the second check reports the second version. -/
theorem own_response_second :
    { code := 200, availableVersion := version [56] }
      = ownResult { responses := [versioned [57] 302, versioned [56] 200] } := by
  refine (own_response_iff (w := {}) rfl [{ responses := [versioned [55] 200] }] _).mpr ?_ _
    (by decide +kernel)
  rintro ⟨-, -, -, r, hresponse, hstale | hexhausted⟩
  · have hlast : some (versioned [56] 200) = some r := hresponse
    have hnone := hstale.2.2.1
    rw [← Option.some.inj hlast] at hnone
    exact absurd hnone (by decide)
  · exact absurd hexhausted.1 (by decide +kernel)

/-- A response that names version 7, then a 200 that names none: the check reports 7, while
the same response after `otadrive_setInfo` reports no version. So does a single check that is
redirected with a version. A 404 behind ten redirections is not reported at all. -/
theorem stale_version_reported :
    .result { code := 200, availableVersion := version [55] }
        ∈ ((({} : World).checked [{ responses := [versioned [55] 200] }]).step (.info {})).2
      ∧ .result { code := 200, availableVersion := version [] }
        ∈ ((({} : World).checked []).step (.info {})).2
      ∧ ownResult {} = { code := 200, availableVersion := version [] }
      ∧ version [55] ≠ version []
      ∧ .result { code := 200, availableVersion := version [55] }
        ∈ ((({} : World).checked []).step (.info { responses := [versioned [55] 302, {}] })).2
      ∧ ownResult { responses := [versioned [55] 302, {}] }
        = { code := 200, availableVersion := version [] }
      ∧ .result {} ∈ ((({} : World).checked []).step (.info
        { responses := List.replicate 10 { statusCode := 302 } ++ [{ statusCode := 404 }] })).2
      ∧ .result { code := 404 }
        ∈ ((({} : World).checked []).step (.info { responses := [{ statusCode := 404 }] })).2 := by
  decide +kernel

/-! ## How often to check -/

/-- A call of `otadrive_timeTick`: what its two calls of `esp_timer_get_time` return. -/
structure TimeTick where
  now : Int
  later : Int
  deriving DecidableEq, Repr

/-- `otadrive_timeTick`: `tickTimestamp` at its end, and the result. The product of `seconds`
has 32 bits. -/
def otadriveTimeTick (seconds : UInt32) (t : TimeTick) : Int × Bool :=
  -- not `static`: no call finds what an earlier one has stored
  let tickTimestamp : Int := 0
  if t.now > tickTimestamp then (t.later + (seconds * 1000 * 1000).toNat, true)
  else (tickTimestamp, false)

/-- A sequence of calls, each with its result. -/
def timeTicks (seconds : UInt32) (ts : List TimeTick) : List (TimeTick × Bool) :=
  ts.map fun t => (t, (otadriveTimeTick seconds t).2)

/-- The call `b` is made more than `seconds` after `a`. -/
def Apart (seconds : UInt32) (a b : TimeTick) : Prop :=
  a.now + seconds.toNat * 1000 * 1000 < b.now

instance (seconds : UInt32) (a b : TimeTick) : Decidable (Apart seconds a b) := by
  unfold Apart; infer_instance

/-- What a rate limiter does: two calls that return true are more than `seconds` apart, and a
call made more than `seconds` after the last one that did returns true. -/
structure RateLimited (seconds : UInt32) (rs : List (TimeTick × Bool)) : Prop where
  apart : (rs.filter (·.2)).Pairwise fun a b => Apart seconds a.1 b.1
  again : ∀ pre t r post last, rs = pre ++ (t, r) :: post →
    (pre.filter (·.2)).getLast? = some last → Apart seconds last.1 t → r = true

/-- The result does not depend on `seconds`, and on no earlier call. -/
theorem timeTick_eq (seconds : UInt32) (t : TimeTick) :
    (otadriveTimeTick seconds t).2 = decide (0 < t.now) := by
  show (if t.now > 0 then _ else _ : Int × Bool).2 = _
  split_ifs with h
  · exact (decide_eq_true h).symm
  · exact (decide_eq_false h).symm

theorem filter_timeTicks (seconds : UInt32) (ts : List TimeTick) :
    (timeTicks seconds ts).filter (·.2)
      = (ts.filter (0 < ·.now)).map fun t => (t, decide (0 < t.now)) := by
  unfold timeTicks
  simp only [timeTick_eq]
  exact List.filter_map

theorem result_of_mem_timeTicks {seconds : UInt32} {ts : List TimeTick} {r : TimeTick × Bool}
    (h : r ∈ timeTicks seconds ts) : r.2 = true ↔ 0 < r.1.now := by
  obtain ⟨t, -, rfl⟩ := List.mem_map.mp h
  show (otadriveTimeTick seconds t).2 = true ↔ _
  rw [timeTick_eq, decide_eq_true_iff]

theorem apart_trans {seconds : UInt32} {a b c : TimeTick} (hab : Apart seconds a b)
    (hbc : Apart seconds b c) : Apart seconds a c := by
  unfold Apart at *
  omega

/-- The second half of the contract always holds: no call behind the time zero is refused. -/
theorem timeTicks_again {seconds : UInt32} {ts : List TimeTick} {pre post : List (TimeTick × Bool)}
    {r last : TimeTick × Bool} (hrs : timeTicks seconds ts = pre ++ r :: post)
    (hlast : (pre.filter (·.2)).getLast? = some last) (hlater : Apart seconds last.1 r.1) :
    r.2 = true := by
  obtain ⟨hpre, htrue⟩ := List.mem_filter.mp (List.mem_of_getLast? hlast)
  have hmem : last ∈ timeTicks seconds ts := by
    rw [hrs]
    exact List.mem_append_left _ hpre
  have hmem' : r ∈ timeTicks seconds ts := by
    rw [hrs]
    exact List.mem_append_right _ List.mem_cons_self
  have hpos := (result_of_mem_timeTicks hmem).mp htrue
  apply (result_of_mem_timeTicks hmem').mpr
  unfold Apart at hlater
  omega

/-- **The rate limiter.** The calls of `otadrive_timeTick` keep the distance of a rate limiter
if and only if every call behind the time zero is itself made more than `seconds` after the
one before it. -/
theorem rateLimited_iff (seconds : UInt32) (ts : List TimeTick) :
    RateLimited seconds (timeTicks seconds ts)
      ↔ (ts.filter (0 < ·.now)).IsChain (Apart seconds) := by
  have htrans : Trans (Apart seconds) (Apart seconds) (Apart seconds) := ⟨apart_trans⟩
  have hapart : ((timeTicks seconds ts).filter (·.2)).Pairwise (fun a b => Apart seconds a.1 b.1)
      ↔ (ts.filter (0 < ·.now)).Pairwise (Apart seconds) := by
    rw [filter_timeTicks, List.pairwise_map]
  rw [List.isChain_iff_pairwise, ← hapart]
  constructor
  · exact fun h => h.apart
  · exact fun h => ⟨h, fun _ _ _ _ _ hrs hlast hlater => timeTicks_again hrs hlast hlater⟩

/-- A call with 60 seconds one second behind the start of the device, and one a second later,
as a loop with a delay of a second makes them: both return true. -/
theorem second_tick_not_limited :
    ¬ RateLimited 60 (timeTicks 60 [⟨1000000, 1000000⟩, ⟨2000000, 2000000⟩]) := by
  intro h
  exact absurd h.apart (by decide)

end ControlFan.Ota
