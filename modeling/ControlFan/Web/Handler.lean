import ControlFan.Esp
import ControlFan.Lib.CBuffer

/-!
# Web — the credentials page (`http_sever_sta/http_sever_sta.c`, `html/index.html`)

The page posts `ssid=…&pass=…&` to `/wifiinfo`; the handler cuts the body at `&` in place,
recognises the two fields by a substring search, and hands both to the callback. Nothing
terminates the buffer and nothing bounds the copies, so the arrays are modelled with their
ends: `none` is an access outside of one.

* **`readTokens_fault`** — without a NUL behind the body the scan leaves the buffer;
* **`ssid_of_readTokens`**, **`pass_of_readTokens`** — where a field's final text comes from;
* **`posted_delivered_iff`** — the posted pair arrives, whatever the buffers held before,
  exactly for the pairs that need no escaping and fit.
-/

namespace ControlFan.Web

open CString CBuffer

/-! ## The handler -/

/-- A POST request: the announced length, and the bytes `httpd_req_recv` delivers. -/
structure HttpdReq where
  contentLen : Nat
  received : List UInt8
  hfits : received.length ≤ contentLen

/-- What the three calls of `malloc` give: nothing, or an array of any content. -/
structure Mallocs (contentLen : Nat) where
  buf : Option (CArray (contentLen + 1))
  ssid : Option (CArray 50)
  pass : Option (CArray 50)

structure Fields where
  ssid : CArray 50
  pass : CArray 50
  deriving DecidableEq, Repr

structure InfoWifi where
  ssid : CArray 50
  lengssid : Nat
  pass : CArray 50
  lengpass : Nat
  deriving DecidableEq, Repr

def amp : UInt8 := 38
def ssidKey : List UInt8 := ascii ['s', 's', 'i', 'd']
def passKey : List UInt8 := ascii ['p', 'a', 's', 's']

/-- The body of the loop: `token += 5` skips the key and its `=`. -/
def copyToken (f : Fields) (token : List UInt8) : Option Fields :=
  -- the key may stand anywhere in the token
  match strstr ssidKey token with
  | none => none
  | some true => (strcpy f.ssid (token.drop 5)).map fun ssid => { f with ssid := ssid }
  | some false =>
    match strstr passKey token with
    | none => none
    | some true => (strcpy f.pass (token.drop 5)).map fun pass => { f with pass := pass }
    | some false => some f

/-- The loop over the tokens, from where `strtok` stopped last. -/
def readTokens (f : Fields) (s : Option (List UInt8)) : Option Fields :=
  match _htok : strtok [amp] s with
  | none => none
  | some (none, _) => some f
  | some (some token, s') =>
    match copyToken f token with
    | none => none
    | some f' => readTokens f' s'
termination_by left s
decreasing_by exact strtok_left _htok

def httpdReqRecv (req : HttpdReq) (buf : CArray (req.contentLen + 1)) : List UInt8 :=
  req.received ++ buf.bytes.drop req.received.length

/-- `get_infowifi_handler`: its result, and the arguments of the callback if it is called. -/
def getInfowifiHandler (req : HttpdReq) (m : Mallocs req.contentLen) :
    Option (Int × Option InfoWifi) :=
  match m.buf, m.ssid, m.pass with
  -- what `httpd_req_recv` returns is not looked at
  | some buf, some ssid, some pass => do
    let f ← readTokens ⟨ssid, pass⟩ (some (httpdReqRecv req buf))
    let lengssid ← strlen f.ssid.bytes
    let lengpass ← strlen f.pass.bytes
    return (espOk, some ⟨f.ssid, lengssid, f.pass, lengpass⟩)
  -- a failed `malloc` leaks the ones before it
  | _, _, _ => some (espFail, none)

/-- What `myFuntion2` of the page sends. -/
def myFuntion2 (ssid pass : List UInt8) : List UInt8 :=
  ascii ['s', 's', 'i', 'd', '='] ++ ssid ++ ascii ['&', 'p', 'a', 's', 's', '='] ++ pass
    ++ ascii ['&']

/-- The request of the page, received whole. -/
def posted (ssid pass : List UInt8) : HttpdReq where
  contentLen := (myFuntion2 ssid pass).length
  received := myFuntion2 ssid pass
  hfits := Nat.le_refl _

/-! ## One token -/

section Token

variable {f f' : Fields} {t m : List UInt8}

/-- **Everything a token can do.** -/
theorem copyToken_cases (ht : 0 ∉ t) (h : copyToken f (t ++ 0 :: m) = some f') :
    (ssidKey <:+: t ∧ f'.pass = f.pass ∧ cstr f'.ssid.bytes = cstr ((t ++ 0 :: m).drop 5))
      ∨ (¬ ssidKey <:+: t ∧ passKey <:+: t ∧ f'.ssid = f.ssid
        ∧ cstr f'.pass.bytes = cstr ((t ++ 0 :: m).drop 5))
      ∨ (¬ ssidKey <:+: t ∧ ¬ passKey <:+: t ∧ f' = f) := by
  unfold copyToken at h
  rw [strstr_append_zero (by decide) ht, strstr_append_zero (by decide) ht] at h
  by_cases hssid : ssidKey <:+: t
  · simp only [hssid, decide_true, Option.map_eq_some_iff] at h
    obtain ⟨a, hcopy, rfl⟩ := h
    exact Or.inl ⟨hssid, rfl, (strcpy_eq_some hcopy).1⟩
  · simp only [hssid, decide_false] at h
    by_cases hpass : passKey <:+: t
    · simp only [hpass, decide_true, Option.map_eq_some_iff] at h
      obtain ⟨a, hcopy, rfl⟩ := h
      exact Or.inr (Or.inl ⟨hssid, hpass, rfl, (strcpy_eq_some hcopy).1⟩)
    · simp only [hpass, decide_false, Option.some.injEq] at h
      exact Or.inr (Or.inr ⟨hssid, hpass, h.symm⟩)

/-- What `token += 5` points at: the value, or, when the token is only the key, the memory
behind its NUL. -/
theorem cstr_value {key : List UInt8} (hkey : key.length = 4) (hin : key <:+: t) (ht : 0 ∉ t)
    (hamp : amp ∉ t) :
    amp ∉ cstr ((t ++ 0 :: m).drop 5) ∨ (t = key ∧ cstr ((t ++ 0 :: m).drop 5) = cstr m) := by
  have hle := hin.length_le
  by_cases hlen : t.length = 4
  · have heq : key = t := hin.eq_of_length (hkey.trans hlen.symm)
    refine Or.inr ⟨heq.symm, ?_⟩
    rw [List.drop_append, List.drop_eq_nil_of_le (by omega), hlen, List.nil_append]
    rfl
  · have hdrop : (t ++ 0 :: m).drop 5 = t.drop 5 ++ 0 :: m :=
      List.drop_append_of_le_length (by omega)
    left
    rw [hdrop, cstr_append_zero fun h => ht (List.mem_of_mem_drop h)]
    exact fun h => hamp (List.mem_of_mem_drop h)

end Token

/-! ## All tokens -/

section Tokens

variable (f : Fields)

theorem readTokens_eq (s : Option (List UInt8)) :
    readTokens f s
      = match strtok [amp] s with
        | none => none
        | some (none, _) => some f
        | some (some token, s') => (copyToken f token).bind fun f' => readTokens f' s' := by
  rw [readTokens]
  split
  · rename_i htok
    rw [htok]
  · rename_i htok
    rw [htok]
  · rename_i token s' htok
    simp only [htok]
    cases copyToken f token <;> rfl

theorem readTokens_none : readTokens f none = some f := by
  rw [readTokens_eq]
  rfl

theorem readTokens_nil : readTokens f (some []) = none := by
  rw [readTokens_eq]
  rfl

theorem readTokens_zero (s : List UInt8) : readTokens f (some (0 :: s)) = some f := by
  rw [readTokens_eq, strtok_zero (by decide)]

theorem readTokens_amp (s : List UInt8) :
    readTokens f (some (amp :: s)) = readTokens f (some s) := by
  rw [readTokens_eq, strtok_delim (by decide), ← readTokens_eq]

section Token

variable {t : List UInt8} (hne : t ≠ []) (hamp : amp ∉ t) (ht : 0 ∉ t)
include hamp ht

theorem isTokenByte_of_mem : ∀ c ∈ t, isTokenByte [amp] c = true := by
  intro c hc
  have h0 : c ≠ 0 := fun h => ht (h ▸ hc)
  have h1 : c ≠ amp := fun h => hamp (h ▸ hc)
  simp [isTokenByte, h0, h1]

include hne

theorem readTokens_unterminated : readTokens f (some t) = none := by
  rw [readTokens_eq, strtok_unterminated hne (isTokenByte_of_mem hamp ht)]

theorem readTokens_last (s : List UInt8) :
    readTokens f (some (t ++ 0 :: s)) = copyToken f (t ++ 0 :: s) := by
  rw [readTokens_eq, strtok_last hne (isTokenByte_of_mem hamp ht)]
  simp only [readTokens_none, Option.bind_fun_some]

theorem readTokens_token (s : List UInt8) :
    readTokens f (some (t ++ amp :: s))
      = (copyToken f (t ++ 0 :: s)).bind fun f' => readTokens f' (some s) := by
  rw [readTokens_eq, strtok_token hne (isTokenByte_of_mem hamp ht) (by decide) (by decide)]

end Token

end Tokens

/-- **Without a NUL the scan leaves the buffer.** -/
theorem readTokens_fault (f : Fields) (s : List UInt8) (hs : 0 ∉ s) :
    readTokens f (some s) = none := by
  induction s using tokens_induction amp generalizing f with
  | nil => exact readTokens_nil f
  | sep s ih =>
    rw [readTokens_amp]
    exact ih f fun h => hs (List.mem_cons_of_mem _ h)
  | last t hne hamp => exact readTokens_unterminated f hne hamp hs
  | token t s hne hamp ih =>
    rw [List.mem_append, not_or] at hs
    have hrest : 0 ∉ s := fun h => hs.2 (List.mem_cons_of_mem _ h)
    rw [readTokens_token f hne hamp hs.1]
    cases copyToken f (t ++ 0 :: s) with
    | none => rfl
    | some f' => exact ih f' hrest

section Field

variable (get : Fields → CArray 50) (key : List UInt8) (hkey : key.length = 4)
  (Skips : List UInt8 → Prop) (hnil : Skips [])
  (hsep : ∀ t s, Skips t → Skips s → Skips (t ++ amp :: s))
  (hcopy : ∀ {f f' t m}, 0 ∉ t → copyToken f (t ++ 0 :: m) = some f' →
    (Skips t ∧ get f' = get f)
      ∨ (key <:+: t ∧ cstr (get f').bytes = cstr ((t ++ 0 :: m).drop 5)))
include hkey hnil hsep hcopy

/-- **Where the text of a field comes from**: all tokens skip it, it is the value of one, or,
for a token that is only the key, it is everything behind. Induction over the tokens. -/
theorem field_of_readTokens {f f' : Fields} (text : List UInt8) (htext : 0 ∉ text)
    (h : readTokens f (some (text ++ [0])) = some f') :
    (Skips text ∧ get f' = get f)
      ∨ amp ∉ cstr (get f').bytes
      ∨ ∃ x y, text = x ++ key ++ amp :: y ∧ cstr (get f').bytes = y ∧ Skips y := by
  induction text using tokens_induction amp generalizing f with
  | nil =>
    rw [List.nil_append, readTokens_zero] at h
    exact Or.inl ⟨hnil, by rw [Option.some.inj h]⟩
  | sep s ih =>
    rw [List.mem_cons, not_or] at htext
    rw [List.cons_append, readTokens_amp] at h
    rcases ih htext.2 h with ⟨hskip, hkeep⟩ | hfree | ⟨x, y, rfl, hy⟩
    · exact Or.inl ⟨hsep [] s hnil hskip, hkeep⟩
    · exact Or.inr (Or.inl hfree)
    · exact Or.inr (Or.inr ⟨amp :: x, y, rfl, hy⟩)
  | last t hne hamp =>
    rw [readTokens_last f hne hamp htext] at h
    rcases hcopy htext h with hkeep | ⟨hin, hvalue⟩
    · exact Or.inl hkeep
    · rcases cstr_value (m := []) hkey hin htext hamp with hfree | ⟨-, hend⟩
      · exact Or.inr (Or.inl (hvalue ▸ hfree))
      · exact Or.inr (Or.inl (by rw [hvalue, hend]; simp))
  | token t s hne hamp ih =>
    rw [List.mem_append, List.mem_cons, not_or, not_or] at htext
    obtain ⟨ht, -, hs⟩ := htext
    rw [List.append_assoc, List.cons_append, readTokens_token f hne hamp ht,
      Option.bind_eq_some_iff] at h
    obtain ⟨f₁, hfirst, hrest⟩ := h
    rcases ih hs hrest with ⟨hskip, hkeep⟩ | hfree | ⟨x, y, rfl, hy⟩
    · -- this token is the last one that may have written the field
      rw [hkeep]
      rcases hcopy ht hfirst with ⟨hskip', hkeep'⟩ | ⟨hin, hvalue⟩
      · exact Or.inl ⟨hsep t s hskip' hskip, hkeep'⟩
      · rcases cstr_value (m := s ++ [0]) hkey hin ht hamp with hfree | ⟨rfl, hbehind⟩
        · exact Or.inr (Or.inl (hvalue ▸ hfree))
        · refine Or.inr (Or.inr ⟨[], s, rfl, ?_, hskip⟩)
          rw [hvalue, hbehind, cstr_append_zero hs]
    · exact Or.inr (Or.inl hfree)
    · exact Or.inr (Or.inr ⟨t ++ amp :: x, y, by simp, hy⟩)

end Field

theorem ssid_of_readTokens {f f' : Fields} {text : List UInt8} (htext : 0 ∉ text)
    (h : readTokens f (some (text ++ [0])) = some f') :
    (¬ ssidKey <:+: text ∧ f'.ssid = f.ssid)
      ∨ amp ∉ cstr f'.ssid.bytes
      ∨ ∃ x y, text = x ++ ssidKey ++ amp :: y ∧ cstr f'.ssid.bytes = y ∧ ¬ ssidKey <:+: y := by
  refine field_of_readTokens Fields.ssid ssidKey rfl (fun t => ¬ ssidKey <:+: t) (by decide) ?_ ?_
    text htext h
  · intro t s ht hs hin
    rw [infix_append_sep (by decide)] at hin
    exact hin.elim ht hs
  · intro f f' t m ht hcopy
    rcases copyToken_cases ht hcopy with ⟨hin, -, hvalue⟩ | ⟨hno, -, hkeep, -⟩ | ⟨hno, -, rfl⟩
    · exact Or.inr ⟨hin, hvalue⟩
    · exact Or.inl ⟨hno, hkeep⟩
    · exact Or.inl ⟨hno, rfl⟩

theorem pass_of_readTokens {f f' : Fields} {text : List UInt8} (htext : 0 ∉ text)
    (h : readTokens f (some (text ++ [0])) = some f') :
    f'.pass = f.pass ∨ amp ∉ cstr f'.pass.bytes
      ∨ ∃ x, text = x ++ passKey ++ amp :: cstr f'.pass.bytes := by
  have hcopy : ∀ {f f' t m}, 0 ∉ t → copyToken f (t ++ 0 :: m) = some f' →
      (True ∧ f'.pass = f.pass)
        ∨ (passKey <:+: t ∧ cstr f'.pass.bytes = cstr ((t ++ 0 :: m).drop 5)) := by
    intro f f' t m ht hcopy
    rcases copyToken_cases ht hcopy with ⟨-, hkeep, -⟩ | ⟨-, hin, -, hvalue⟩ | ⟨-, -, rfl⟩
    · exact Or.inl ⟨trivial, hkeep⟩
    · exact Or.inr ⟨hin, hvalue⟩
    · exact Or.inl ⟨trivial, rfl⟩
  rcases field_of_readTokens Fields.pass passKey rfl (fun _ => True) trivial
    (fun _ _ _ _ => trivial) hcopy text htext h with ⟨-, hkeep⟩ | hfree | ⟨x, y, htext, rfl, -⟩
  · exact Or.inl hkeep
  · exact Or.inr (Or.inl hfree)
  · exact Or.inr (Or.inr ⟨x, htext⟩)

/-! ## The posted pair -/

def eqSign : UInt8 := 61

theorem myFuntion2_eq (ssid pass : List UInt8) :
    myFuntion2 ssid pass
      = (ssidKey ++ eqSign :: ssid) ++ amp :: ((passKey ++ eqSign :: pass) ++ [amp]) := by
  simp [myFuntion2, ascii, ssidKey, passKey, amp, eqSign]

theorem notMem_field {c : UInt8} {key v : List UInt8} (hkey : c ∉ key) (heq : c ≠ eqSign)
    (hv : c ∉ v) : c ∉ key ++ eqSign :: v := by
  rw [List.mem_append, List.mem_cons, not_or, not_or]
  exact ⟨hkey, heq, hv⟩

theorem copyToken_ssid (f : Fields) {v : List UInt8} (hv : 0 ∉ v) (hlen : v.length < 50)
    (m : List UInt8) :
    ∃ a, copyToken f ((ssidKey ++ eqSign :: v) ++ 0 :: m) = some { f with ssid := a }
      ∧ cstr a.bytes = v ∧ 0 ∈ a.bytes := by
  have hin : ssidKey <:+: ssidKey ++ eqSign :: v := ⟨[], eqSign :: v, rfl⟩
  have hnul : 0 ∉ ssidKey ++ eqSign :: v := notMem_field (by decide) (by decide) hv
  obtain ⟨a, hcopy, ha⟩ := strcpy_append_zero f.ssid hv hlen m
  refine ⟨a, ?_, ha⟩
  unfold copyToken
  rw [strstr_append_zero (by decide) hnul, decide_eq_true hin]
  show (strcpy f.ssid (v ++ 0 :: m)).map _ = _
  rw [hcopy, Option.map_some]

theorem copyToken_pass (f : Fields) {v : List UInt8} (hv : 0 ∉ v) (hkey : ¬ ssidKey <:+: v)
    (hlen : v.length < 50) (m : List UInt8) :
    ∃ a, copyToken f ((passKey ++ eqSign :: v) ++ 0 :: m) = some { f with pass := a }
      ∧ cstr a.bytes = v ∧ 0 ∈ a.bytes := by
  have hin : passKey <:+: passKey ++ eqSign :: v := ⟨[], eqSign :: v, rfl⟩
  have hno : ¬ ssidKey <:+: passKey ++ eqSign :: v := by
    rw [infix_append_sep (by decide)]
    exact not_or.mpr ⟨by decide, hkey⟩
  have hnul : 0 ∉ passKey ++ eqSign :: v := notMem_field (by decide) (by decide) hv
  obtain ⟨a, hcopy, ha⟩ := strcpy_append_zero f.pass hv hlen m
  refine ⟨a, ?_, ha⟩
  unfold copyToken
  rw [strstr_append_zero (by decide) hnul, decide_eq_false hno,
    strstr_append_zero (by decide) hnul, decide_eq_true hin]
  show (strcpy f.pass (v ++ 0 :: m)).map _ = _
  rw [hcopy, Option.map_some]

section Posted

variable {ssid pass : List UInt8} (hssid : 0 ∉ ssid) (hpass : 0 ∉ pass)
include hssid hpass

theorem zero_notMem_myFuntion2 : 0 ∉ myFuntion2 ssid pass := by
  simp [myFuntion2, ascii, hssid, hpass]

theorem readTokens_posted (f : Fields) (hs : amp ∉ ssid) (hp : amp ∉ pass) :
    readTokens f (some (myFuntion2 ssid pass ++ [0]))
      = (copyToken f ((ssidKey ++ eqSign :: ssid)
            ++ 0 :: ((passKey ++ eqSign :: pass) ++ [amp, 0]))).bind
          fun f' => copyToken f' ((passKey ++ eqSign :: pass) ++ [0, 0]) := by
  have hs' : amp ∉ ssidKey ++ eqSign :: ssid := notMem_field (by decide) (by decide) hs
  have hp' : amp ∉ passKey ++ eqSign :: pass := notMem_field (by decide) (by decide) hp
  have hs0 : 0 ∉ ssidKey ++ eqSign :: ssid := notMem_field (by decide) (by decide) hssid
  have hp0 : 0 ∉ passKey ++ eqSign :: pass := notMem_field (by decide) (by decide) hpass
  have hbody : myFuntion2 ssid pass ++ [0]
      = (ssidKey ++ eqSign :: ssid) ++ amp :: ((passKey ++ eqSign :: pass) ++ amp :: [0]) := by
    rw [myFuntion2_eq]
    simp
  rw [hbody, readTokens_token f (by simp) hs' hs0]
  congr 1
  funext f'
  rw [readTokens_token f' (by simp) hp' hp0]
  simp only [readTokens_zero, Option.bind_fun_some]

variable {f f' : Fields} (h : readTokens f (some (myFuntion2 ssid pass ++ [0])) = some f')
include h

/-- A `pass` that arrives has no separator: from behind a bare key the end of the body would
follow, which is longer by one byte than the value and starts elsewhere. -/
theorem amp_notMem_pass (hkeep : f'.pass ≠ f.pass) (hpass' : cstr f'.pass.bytes = pass) : amp ∉ pass := by
  rcases pass_of_readTokens (zero_notMem_myFuntion2 hssid hpass) h with hsame | hfree | ⟨x, hx⟩
  · exact absurd hsame hkeep
  · rwa [hpass'] at hfree
  · rw [hpass', myFuntion2_eq] at hx
    have htails : (ssidKey ++ eqSign :: ssid ++ amp :: passKey) ++ eqSign :: (pass ++ [amp])
        = (x ++ passKey.take 3) ++ 115 :: (amp :: pass) := by
      simpa [passKey, ascii] using hx
    have heq := (List.append_inj' htails (by simp)).2
    exact absurd (List.cons.inj heq).1 (by decide)

/-- Nor does it hold the key of the other field: it would be taken for that field. -/
theorem ssidKey_not_infix_pass (hkeep : f'.pass ≠ f.pass) (hne : ssid ≠ []) (hamp : amp ∉ pass)
    (hssid' : cstr f'.ssid.bytes = ssid) : ¬ ssidKey <:+: pass := by
  intro hin
  have hin' : ssidKey <:+: passKey ++ eqSign :: pass := (infix_append_sep (by decide)).mpr (Or.inr hin)
  rcases ssid_of_readTokens (zero_notMem_myFuntion2 hssid hpass) h with
    ⟨hno, -⟩ | hfree | ⟨x, y, hx, hy, hno⟩
  · exact hno ⟨[], _, rfl⟩
  · -- two tokens, both copied to `ssid`
    rw [hssid'] at hfree
    rw [readTokens_posted hssid hpass f hfree hamp, Option.bind_eq_some_iff] at h
    obtain ⟨f₁, hfirst, hsecond⟩ := h
    have hs0 : 0 ∉ ssidKey ++ eqSign :: ssid := notMem_field (by decide) (by decide) hssid
    have hp0 : 0 ∉ passKey ++ eqSign :: pass := notMem_field (by decide) (by decide) hpass
    have hkeep₁ : f₁.pass = f.pass := by
      rcases copyToken_cases hs0 hfirst with ⟨-, hsame, -⟩ | ⟨hno, -⟩ | ⟨hno, -⟩
      · exact hsame
      · exact absurd ⟨[], _, rfl⟩ hno
      · exact absurd ⟨[], _, rfl⟩ hno
    rcases copyToken_cases hp0 hsecond with ⟨-, hsame, -⟩ | ⟨hno, -⟩ | ⟨hno, -⟩
    · exact hkeep (hsame.trans hkeep₁)
    · exact hno hin'
    · exact hno hin'
  · -- what follows a bare key ends with the whole other field
    rw [hssid'] at hy
    rw [myFuntion2_eq] at hx
    have hp' : amp ∉ passKey ++ eqSign :: pass := notMem_field (by decide) (by decide) hamp
    have hsuffix := suffix_of_sep hx.symm hp' (hy ▸ hne)
    exact hno ((hin'.trans (List.prefix_append _ _).isInfix).trans hsuffix.isInfix)

/-- And the `ssid` has no separator: behind a bare key there is no other key. -/
theorem amp_notMem_ssid (hkey : ¬ ssidKey <:+: pass) (hssid' : cstr f'.ssid.bytes = ssid) :
    amp ∉ ssid := by
  rcases ssid_of_readTokens (zero_notMem_myFuntion2 hssid hpass) h with
    ⟨hno, -⟩ | hfree | ⟨x, y, hx, hy, hno⟩
  · exact absurd ⟨[], _, rfl⟩ hno
  · rwa [hssid'] at hfree
  · exfalso
    rw [← hy, hssid'] at hno
    have hin : ssidKey ++ [amp] <:+: myFuntion2 ssid pass := ⟨x, y, by rw [hx]; simp⟩
    rw [myFuntion2_eq, List.append_assoc, List.cons_append, infix_append_sep (by decide)] at hin
    rcases hin with hin | hin
    · exact absurd hin.length_le (by decide)
    · have hin' : ssidKey <:+: ssid ++ amp :: (passKey ++ eqSign :: (pass ++ amp :: [])) := by
        have hpre : ssidKey <:+: ssidKey ++ [amp] := (List.prefix_append _ _).isInfix
        simpa using hpre.trans hin
      rw [infix_append_sep (by decide), infix_append_sep (by decide),
        infix_append_sep (by decide)] at hin'
      rcases hin' with hin' | hin' | hin' | hin'
      · exact hno hin'
      · exact absurd hin' (by decide)
      · exact hkey hin'
      · exact absurd hin' (by decide)

end Posted

def InfoWifi.strings (a : InfoWifi) : List UInt8 × Nat × List UInt8 × Nat :=
  (cstr a.ssid.bytes, a.lengssid, cstr a.pass.bytes, a.lengpass)

/-- The callback is called, with exactly these strings. -/
def Delivered (r : Option (Int × Option InfoWifi)) (ssid pass : List UInt8) : Prop :=
  r.map (fun ret => ret.2.map InfoWifi.strings)
    = some (some (ssid, ssid.length, pass, pass.length))

instance (r : Option (Int × Option InfoWifi)) (ssid pass : List UInt8) :
    Decidable (Delivered r ssid pass) := inferInstanceAs (Decidable (_ = _))

theorem delivered_iff (ssid pass : List UInt8)
    (buf : CArray ((myFuntion2 ssid pass).length + 1)) (s p : CArray 50) :
    Delivered (getInfowifiHandler (posted ssid pass) ⟨some buf, some s, some p⟩) ssid pass
      ↔ ∃ f', readTokens ⟨s, p⟩
            (some (myFuntion2 ssid pass ++ buf.bytes.drop (myFuntion2 ssid pass).length)) = some f'
          ∧ (cstr f'.ssid.bytes = ssid ∧ 0 ∈ f'.ssid.bytes)
          ∧ (cstr f'.pass.bytes = pass ∧ 0 ∈ f'.pass.bytes) := by
  unfold Delivered
  rw [Option.map_eq_some_iff]
  constructor
  · rintro ⟨⟨ret, args⟩, hret, hargs⟩
    simp only [getInfowifiHandler, bind, Option.bind_eq_some_iff, strlen_eq_some_iff] at hret
    obtain ⟨f', hread, n₁, ⟨hs, -⟩, n₂, ⟨hp, -⟩, heq⟩ := hret
    obtain ⟨-, rfl⟩ := Prod.mk.inj (Option.some.inj heq)
    have hstrings := Option.some.inj hargs
    exact ⟨f', hread, ⟨(Prod.mk.inj hstrings).1, hs⟩,
      ⟨(Prod.mk.inj (Prod.mk.inj (Prod.mk.inj hstrings).2).2).1, hp⟩⟩
  · rintro ⟨f', hread, ⟨hssid, hs⟩, ⟨hpass, hp⟩⟩
    refine ⟨(espOk, some ⟨f'.ssid, ssid.length, f'.pass, pass.length⟩), ?_, ?_⟩
    · simp only [getInfowifiHandler, bind, Option.bind_eq_some_iff, strlen_eq_some_iff]
      exact ⟨f', hread, _, ⟨hs, by rw [hssid]⟩, _, ⟨hp, by rw [hpass]⟩, rfl⟩
    · simp [InfoWifi.strings, hssid, hpass]

theorem exists_cstr_ne (pass : List UInt8) : ∃ p : CArray 50, cstr p.bytes ≠ pass := by
  by_cases h : pass = []
  · refine ⟨⟨List.replicate 50 1, List.length_replicate⟩, ?_⟩
    rw [h]
    decide
  · refine ⟨CArray.zero 50, ?_⟩
    exact fun h0 => h h0.symm

/-- The page's pair reaches the callback unchanged, for every content of the other buffers,
if and only if the byte behind the received body is a NUL, no value holds a `&`, `pass` does
not hold the text `ssid`, and `pass` fits its buffer. -/
theorem posted_delivered_iff (ssid pass : List UInt8) (hlen : 1 ≤ ssid.length ∧ ssid.length ≤ 32)
    (hnul : 0 ∉ ssid ∧ 0 ∉ pass) (buf : CArray ((myFuntion2 ssid pass).length + 1)) :
    (∀ s p : CArray 50,
        Delivered (getInfowifiHandler (posted ssid pass) ⟨some buf, some s, some p⟩) ssid pass)
      ↔ buf.bytes.drop (myFuntion2 ssid pass).length = [0]
        ∧ amp ∉ ssid ∧ amp ∉ pass ∧ ¬ ssidKey <:+: pass ∧ pass.length ≤ 49 := by
  obtain ⟨hssid, hpass⟩ := hnul
  constructor
  · intro hall
    -- buffers that do not hold the passphrase by accident
    obtain ⟨p, hp⟩ := exists_cstr_ne pass
    obtain ⟨f', hread, ⟨hs', -⟩, ⟨hp', hend⟩⟩ := (delivered_iff ssid pass buf p p).mp (hall p p)
    -- the byte behind the body: without a NUL the scan has no end
    have hone : (buf.bytes.drop (myFuntion2 ssid pass).length).length = 1 := by
      rw [List.length_drop, buf.hlen]
      omega
    obtain ⟨g, hg⟩ := List.length_eq_one_iff.mp hone
    have hg0 : g = 0 := by
      by_contra hne
      rw [hg, readTokens_fault _ _ ?_] at hread
      · simp at hread
      · rw [List.mem_append, List.mem_singleton, not_or]
        exact ⟨zero_notMem_myFuntion2 hssid hpass, Ne.symm hne⟩
    rw [hg, hg0] at hread
    have hkeep : f'.pass ≠ p := fun h => hp (h ▸ hp')
    have hamp := amp_notMem_pass hssid hpass hread hkeep hp'
    have hkey := ssidKey_not_infix_pass hssid hpass hread hkeep
      (List.ne_nil_of_length_pos hlen.1) hamp hs'
    have hfit := length_lt_of_zero_mem hend
    rw [hp'] at hfit
    exact ⟨by rw [hg, hg0], amp_notMem_ssid hssid hpass hread hkey hs', hamp, hkey, by omega⟩
  · rintro ⟨hbehind, hamps, hampp, hkey, hfit⟩ s p
    obtain ⟨a, ha, has, ha0⟩ := copyToken_ssid ⟨s, p⟩ hssid (by omega)
      ((passKey ++ eqSign :: pass) ++ [amp, 0])
    obtain ⟨b, hb, hbs, hb0⟩ := copyToken_pass ⟨a, p⟩ hpass hkey (by omega) [0]
    rw [delivered_iff, hbehind, readTokens_posted hssid hpass _ hamps hampp, ha, Option.bind_some, hb]
    exact ⟨⟨a, b⟩, rfl, ⟨has, ha0⟩, ⟨hbs, hb0⟩⟩

/-- `fan` and `password`, with a NUL behind the body. -/
theorem posted_delivered_fan_password :
    Delivered
      (getInfowifiHandler
        (posted (ascii ['f', 'a', 'n']) (ascii ['p', 'a', 's', 's', 'w', 'o', 'r', 'd']))
        ⟨some (CArray.zero _), some (CArray.zero 50), some (CArray.zero 50)⟩)
      (ascii ['f', 'a', 'n']) (ascii ['p', 'a', 's', 's', 'w', 'o', 'r', 'd']) :=
  (posted_delivered_iff _ _ (by decide) (by decide) (CArray.zero _)).mpr (by decide)
    (CArray.zero 50) (CArray.zero 50)

/-- `fan` and `pass&word`, all buffers cleared: the callback gets `pass` for the second. -/
theorem separator_cuts_pass :
    ¬ Delivered
        (getInfowifiHandler
          (posted (ascii ['f', 'a', 'n']) (ascii ['p', 'a', 's', 's', '&', 'w', 'o', 'r', 'd']))
          ⟨some (CArray.zero _), some (CArray.zero 50), some (CArray.zero 50)⟩)
        (ascii ['f', 'a', 'n']) (ascii ['p', 'a', 's', 's', '&', 'w', 'o', 'r', 'd']) := by
  decide +kernel

end ControlFan.Web
