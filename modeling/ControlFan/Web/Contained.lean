import ControlFan.Web.Handler
import ControlFan.Wifi.Credentials

/-!
# Web — the accesses of the credentials handler, for any request

Everyone in reach of the access point can post anything to `/wifiinfo`. The handler relies on a NUL
behind the body, on both fields being there, and on values that are short enough; nothing checks for
any of these.

* **`Contained`** — no access leaves its array, and what the callback gets does not depend on what
  the arrays held before;
* **`formTokens`** — the tokens of a request, with the memory behind them;
* **`readTokens_eq_tokens`** — the loop of the handler as one over these tokens;
* **`contained_iff`** — the requests for which the handler is safe.
-/

namespace ControlFan.Web

open CString CBuffer Wifi

/-- For any content of the buffers the handler and its callback stay inside their arrays, and the
callback gets the same two strings: no byte of them is one that was never written. -/
def Contained (req : HttpdReq) : Prop :=
  ∃ ssid pass, ∀ m : Mallocs req.contentLen, ∃ ret args,
    getInfowifiHandler req m = some (ret, args)
      ∧ ∀ a, args = some a → cstr a.ssid.bytes = ssid ∧ cstr a.pass.bytes = pass
        ∧ ∀ info, (setCallbackWifiinfo info a.ssid.bytes a.lengssid a.pass.bytes a.lengpass).isSome

/-! ## Tokens -/

/-- A token, and the memory behind the NUL that ends it. -/
structure Token where
  text : List UInt8
  behind : List UInt8
  deriving DecidableEq, Repr

namespace Token

def memory (t : Token) : List UInt8 := t.text ++ 0 :: t.behind

/-- What `token += 5` points at. -/
def value (t : Token) : List UInt8 := t.memory.drop 5

def isSsid (t : Token) : Bool := decide (ssidKey <:+: t.text)

def isPass (t : Token) : Bool := !t.isSsid && decide (passKey <:+: t.text)

/-- The value ends inside the memory, and fits its buffer. -/
def Fits (t : Token) : Prop := 0 ∈ t.value ∧ (cstr t.value).length < 50

instance (t : Token) : Decidable t.Fits := inferInstanceAs (Decidable (_ ∧ _))

/-- The same token in a memory that goes on. -/
def extend (m : List UInt8) (t : Token) : Token := { t with behind := t.behind ++ m }

end Token

/-- The tokens of a text in front of a NUL and the memory `m`; `cur` is the part of the first one that
was read already. -/
def cut (m : List UInt8) : (cur text : List UInt8) → List Token
  | cur, [] => if cur = [] then [] else [⟨cur, m⟩]
  | cur, b :: text =>
    if b = amp then (if cur = [] then [] else [⟨cur, text ++ 0 :: m⟩]) ++ cut m [] text
    else cut m (cur ++ [b]) text

/-- The tokens of the received bytes, up to the first NUL. -/
def formTokens (received : List UInt8) : List Token :=
  cut (received.drop ((cstr received).length + 1)) [] (cstr received)

section Cut

variable {m t : List UInt8}

theorem cut_append (hamp : amp ∉ t) (cur s : List UInt8) : cut m cur (t ++ s) = cut m (cur ++ t) s := by
  induction t generalizing cur with
  | nil => rw [List.nil_append, List.append_nil]
  | cons b t ih =>
    rw [List.mem_cons, not_or] at hamp
    rw [List.cons_append, cut, if_neg (Ne.symm hamp.1), ih hamp.2, List.append_assoc,
      List.singleton_append]

theorem cut_amp (s : List UInt8) : cut m [] (amp :: s) = cut m [] s := by
  rw [cut, if_pos rfl, if_pos rfl, List.nil_append]

theorem cut_last (hne : t ≠ []) (hamp : amp ∉ t) : cut m [] t = [⟨t, m⟩] := by
  have happend := cut_append (m := m) hamp [] []
  rw [List.append_nil, List.nil_append] at happend
  rw [happend, cut, if_neg hne]

theorem cut_token (hne : t ≠ []) (hamp : amp ∉ t) (s : List UInt8) :
    cut m [] (t ++ amp :: s) = ⟨t, s ++ 0 :: m⟩ :: cut m [] s := by
  rw [cut_append hamp, List.nil_append, cut, if_pos rfl, if_neg hne, List.singleton_append]

/-- More memory behind the text is more memory behind each token. -/
theorem cut_extend (m' : List UInt8) (text : List UInt8) :
    cut (m ++ m') [] text = (cut m [] text).map (Token.extend m') := by
  induction text using tokens_induction amp with
  | nil => rfl
  | sep s ih => rw [cut_amp, cut_amp, ih]
  | last t hne hamp => rw [cut_last hne hamp, cut_last hne hamp, List.map_singleton, Token.extend]
  | token t s hne hamp ih =>
    rw [cut_token hne hamp, cut_token hne hamp, ih, List.map_cons, Token.extend, List.append_assoc,
      List.cons_append]

theorem zero_notMem_cut {text : List UInt8} (htext : 0 ∉ text) : ∀ t ∈ cut m [] text, 0 ∉ t.text := by
  induction text using tokens_induction amp with
  | nil => exact fun t ht => absurd ht List.not_mem_nil
  | sep s ih =>
    rw [cut_amp]
    exact ih fun h => htext (List.mem_cons_of_mem _ h)
  | last t hne hamp =>
    rw [cut_last hne hamp]
    intro t' ht'
    rw [List.mem_singleton.mp ht']
    exact htext
  | token t s hne hamp ih =>
    rw [List.mem_append, List.mem_cons, not_or, not_or] at htext
    rw [cut_token hne hamp]
    exact List.forall_mem_cons.mpr ⟨htext.1, ih htext.2.2⟩

/-- **The loop of the handler** over the tokens of the text. -/
theorem readTokens_eq_tokens (f : Fields) {text : List UInt8} (htext : 0 ∉ text) :
    readTokens f (some (text ++ 0 :: m))
      = (cut m [] text).foldlM (fun f t => copyToken f t.memory) f := by
  induction text using tokens_induction amp generalizing f with
  | nil => exact readTokens_zero f m
  | sep s ih =>
    rw [List.mem_cons, not_or] at htext
    rw [List.cons_append, readTokens_amp, cut_amp, ih f htext.2]
  | last t hne hamp =>
    rw [readTokens_last f hne hamp htext, cut_last hne hamp, List.foldlM_cons]
    show _ = (copyToken f (t ++ 0 :: m)).bind some
    rw [Option.bind_fun_some]
  | token t s hne hamp ih =>
    rw [List.mem_append, List.mem_cons, not_or, not_or] at htext
    rw [List.append_assoc, List.cons_append, readTokens_token f hne hamp htext.1, cut_token hne hamp,
      List.foldlM_cons]
    show _ = (copyToken f (t ++ 0 :: (s ++ 0 :: m))).bind _
    congr 1
    funext f'
    exact ih f' htext.2.2

end Cut

/-! ## The copies -/

section Copies

variable {f f' : Fields} {t : Token}

theorem copyToken_eq (f : Fields) (ht : 0 ∉ t.text) :
    copyToken f t.memory
      = if t.isSsid then (strcpy f.ssid t.value).map fun ssid => { f with ssid := ssid }
        else if t.isPass then (strcpy f.pass t.value).map fun pass => { f with pass := pass }
        else some f := by
  unfold copyToken Token.memory Token.isPass Token.isSsid
  rw [strstr_append_zero (by decide) ht, strstr_append_zero (by decide) ht]
  cases decide (ssidKey <:+: t.text) with
  | true => rfl
  | false =>
    rw [if_neg Bool.false_ne_true, Bool.not_false, Bool.true_and]
    cases decide (passKey <:+: t.text) <;> rfl

/-- A token is copied without leaving an array, exactly if it is none of the two fields or fits. -/
theorem copyToken_isSome_iff (f : Fields) (ht : 0 ∉ t.text) :
    (copyToken f t.memory).isSome ↔ (t.isSsid = true ∨ t.isPass = true → t.Fits) := by
  rw [copyToken_eq f ht]
  cases hssid : t.isSsid with
  | true =>
    rw [if_pos rfl, Option.isSome_map, strcpy_isSome_iff]
    simp [Token.Fits]
  | false =>
    rw [if_neg Bool.false_ne_true]
    cases hpass : t.isPass with
    | true =>
      rw [if_pos rfl, Option.isSome_map, strcpy_isSome_iff]
      simp [Token.Fits]
    | false => simp

/-- What a field holds behind some tokens: the value of the last one that is for it. -/
def Holds (before after : CArray 50) (is : Token → Bool) (ts : List Token) : Prop :=
  match (ts.filter is).getLast? with
  | none => after = before
  | some t => cstr after.bytes = cstr t.value ∧ 0 ∈ after.bytes

theorem Holds.skip {before after : CArray 50} {is : Token → Bool} {ts : List Token}
    (h : Holds before after is ts) (hno : is t = false) : Holds before after is (ts ++ [t]) := by
  unfold Holds at h ⊢
  rw [List.filter_append, List.filter_singleton, hno, cond_false, List.append_nil]
  exact h

theorem holds_last {before after : CArray 50} {is : Token → Bool} {ts : List Token}
    (hyes : is t = true) (hcopy : strcpy before t.value = some after) (first : CArray 50) :
    Holds first after is (ts ++ [t]) := by
  unfold Holds
  rw [List.filter_append, List.filter_singleton, hyes, cond_true, List.getLast?_concat]
  exact strcpy_eq_some hcopy

/-- Behind one token more. -/
theorem copyToken_holds {before : Fields} {ts : List Token} (ht : 0 ∉ t.text)
    (h : copyToken f t.memory = some f') (hssid : Holds before.ssid f.ssid Token.isSsid ts)
    (hpass : Holds before.pass f.pass Token.isPass ts) :
    Holds before.ssid f'.ssid Token.isSsid (ts ++ [t])
      ∧ Holds before.pass f'.pass Token.isPass (ts ++ [t]) := by
  rw [copyToken_eq f ht] at h
  cases his : t.isSsid with
  | true =>
    have hnot : t.isPass = false := by
      unfold Token.isPass
      rw [his]
      rfl
    rw [his, if_pos rfl, Option.map_eq_some_iff] at h
    obtain ⟨a, hcopy, rfl⟩ := h
    exact ⟨holds_last his hcopy _, hpass.skip hnot⟩
  | false =>
    rw [his, if_neg Bool.false_ne_true] at h
    cases his' : t.isPass with
    | true =>
      rw [his', if_pos rfl, Option.map_eq_some_iff] at h
      obtain ⟨a, hcopy, rfl⟩ := h
      exact ⟨hssid.skip his, holds_last his' hcopy _⟩
    | false =>
      rw [his', if_neg Bool.false_ne_true] at h
      cases h
      exact ⟨hssid.skip his, hpass.skip his'⟩

/-- **All tokens.** The loop stays inside its arrays exactly if every field that it copies fits, and
then leaves the last of each. Induction on the tokens, the last one first. -/
theorem foldlM_copyToken (f : Fields) (ts : List Token) (hts : ∀ t ∈ ts, 0 ∉ t.text) :
    ((∃ f', ts.foldlM (fun f t => copyToken f t.memory) f = some f')
        ↔ ∀ t ∈ ts, t.isSsid = true ∨ t.isPass = true → t.Fits)
      ∧ ∀ f', ts.foldlM (fun f t => copyToken f t.memory) f = some f' →
        Holds f.ssid f'.ssid Token.isSsid ts ∧ Holds f.pass f'.pass Token.isPass ts := by
  induction ts using List.reverseRecOn with
  | nil =>
    refine ⟨iff_of_true ⟨f, rfl⟩ fun t ht => absurd ht List.not_mem_nil, fun f' h => ?_⟩
    cases h
    exact ⟨rfl, rfl⟩
  | append_singleton ts t ih =>
    rw [List.forall_mem_append] at hts
    obtain ⟨hiff, hholds⟩ := ih hts.1
    have ht : 0 ∉ t.text := hts.2 t (List.mem_singleton.mpr rfl)
    have hfold : ∀ f', (ts ++ [t]).foldlM (fun f t => copyToken f t.memory) f = some f'
        ↔ ∃ f₁, ts.foldlM (fun f t => copyToken f t.memory) f = some f₁
          ∧ copyToken f₁ t.memory = some f' := by
      intro f'
      rw [List.foldlM_append]
      simp [Option.bind_eq_some_iff]
    constructor
    · rw [List.forall_mem_append, ← hiff]
      constructor
      · intro h
        obtain ⟨f', hf'⟩ := h
        obtain ⟨f₁, hf₁, hlast⟩ := (hfold f').mp hf'
        refine ⟨⟨f₁, hf₁⟩, fun t' ht' => ?_⟩
        rw [List.mem_singleton.mp ht', ← copyToken_isSome_iff f₁ ht, hlast]
        rfl
      · intro h
        obtain ⟨⟨f₁, hf₁⟩, hlast⟩ := h
        obtain ⟨f', hf'⟩ := Option.isSome_iff_exists.mp
          ((copyToken_isSome_iff f₁ ht).mpr (hlast t (List.mem_singleton.mpr rfl)))
        exact ⟨f', (hfold f').mpr ⟨f₁, hf₁, hf'⟩⟩
    · intro f' hf'
      obtain ⟨f₁, hf₁, hlast⟩ := (hfold f').mp hf'
      obtain ⟨hssid, hpass⟩ := hholds f₁ hf₁
      exact copyToken_holds ht hlast hssid hpass

end Copies

/-! ## A longer memory -/

section Extend

variable {t : Token} {m : List UInt8} (hfield : t.isSsid = true ∨ t.isPass = true)
include hfield

theorem length_text_of_field : 4 ≤ t.text.length := by
  rcases hfield with h | h
  · exact (of_decide_eq_true h : ssidKey <:+: t.text).length_le
  · exact (of_decide_eq_true (Bool.and_eq_true_iff.mp h).2 : passKey <:+: t.text).length_le

theorem value_extend : (t.extend m).value = t.value ++ m := by
  have hlen := length_text_of_field hfield
  have hmemory : (t.extend m).memory = t.memory ++ m := by
    unfold Token.memory Token.extend
    rw [List.append_assoc, List.cons_append]
  unfold Token.value
  rw [hmemory, List.drop_append_of_le_length]
  unfold Token.memory
  rw [List.length_append, List.length_cons]
  omega

theorem cstr_value_extend (hfits : t.Fits) : cstr (t.extend m).value = cstr t.value := by
  obtain ⟨rest, hrest⟩ := exists_of_zero_mem hfits.1
  rw [value_extend hfield, hrest, List.append_assoc, List.cons_append,
    cstr_append_zero (zero_notMem_cstr _), cstr_append_zero (zero_notMem_cstr _)]

theorem Token.Fits.extend (hfits : t.Fits) : (t.extend m).Fits := by
  refine ⟨?_, ?_⟩
  · rw [value_extend hfield]
    exact List.mem_append_left _ hfits.1
  · rw [cstr_value_extend hfield hfits]
    exact hfits.2

/-- Memory without a NUL does not help a value that has none. -/
theorem fits_of_extend (hm : 0 ∉ m) (hfits : (t.extend m).Fits) : t.Fits := by
  have hnul := hfits.1
  rw [value_extend hfield, List.mem_append] at hnul
  have hvalue := hnul.resolve_right hm
  refine ⟨hvalue, ?_⟩
  obtain ⟨rest, hrest⟩ := exists_of_zero_mem hvalue
  have hlen := hfits.2
  rwa [value_extend hfield, hrest, List.append_assoc, List.cons_append,
    cstr_append_zero (zero_notMem_cstr _)] at hlen

end Extend

theorem getLast?_filter_extend (m : List UInt8) {is : Token → Bool}
    (his : ∀ t, is (t.extend m) = is t) (ts : List Token) :
    ((ts.map (Token.extend m)).filter is).getLast?
      = (ts.filter is).getLast?.map (Token.extend m) := by
  rw [List.filter_map, List.getLast?_map, show is ∘ Token.extend m = is from funext his]

/-! ## Requests -/

/-- The last token that is for a field. -/
def lastField (is : Token → Bool) (received : List UInt8) : Option Token :=
  ((formTokens received).filter is).getLast?

/-- A body that the handler can read: it has a NUL; every field in front of it has a value that ends
among the received bytes and is shorter than 50; there are both fields; and the SSID has at most 32
bytes. -/
structure WellFormed (received : List UInt8) : Prop where
  nul : 0 ∈ received
  values : ∀ t ∈ formTokens received, t.isSsid = true ∨ t.isPass = true → t.Fits
  ssid : ∃ t, lastField Token.isSsid received = some t ∧ (cstr t.value).length ≤ 32
  pass : ∃ t, lastField Token.isPass received = some t

section Request

variable {req : HttpdReq}

theorem readTokens_request (hnul : 0 ∈ req.received) (buf : CArray (req.contentLen + 1)) (f : Fields) :
    readTokens f (some (httpdReqRecv req buf))
      = ((formTokens req.received).map
            (Token.extend (buf.bytes.drop req.received.length))).foldlM
          (fun f t => copyToken f t.memory) f := by
  obtain ⟨rest, hrest⟩ := exists_of_zero_mem hnul
  have hdrop : req.received.drop ((cstr req.received).length + 1) = rest := by
    conv_lhs => rw [hrest]
    rw [cstr_append_zero (zero_notMem_cstr _), List.drop_append]
    simp
  have hmemory : httpdReqRecv req buf
      = cstr req.received ++ 0 :: (rest ++ buf.bytes.drop req.received.length) := by
    unfold httpdReqRecv
    rw [← List.cons_append, ← List.append_assoc, ← hrest]
  unfold formTokens
  rw [hmemory, readTokens_eq_tokens f (zero_notMem_cstr _), cut_extend, hdrop]

/-- The handler with its buffers: the loop ends with two strings. -/
theorem getInfowifiHandler_eq_some {buf : CArray (req.contentLen + 1)} {s p : CArray 50}
    {ret : Int × Option InfoWifi} :
    getInfowifiHandler req ⟨some buf, some s, some p⟩ = some ret
      ↔ ∃ f', readTokens ⟨s, p⟩ (some (httpdReqRecv req buf)) = some f'
        ∧ 0 ∈ f'.ssid.bytes ∧ 0 ∈ f'.pass.bytes
        ∧ ret = (espOk, some ⟨f'.ssid, (cstr f'.ssid.bytes).length, f'.pass,
            (cstr f'.pass.bytes).length⟩) := by
  simp only [getInfowifiHandler, bind, Option.bind_eq_some_iff, strlen_eq_some_iff]
  constructor
  · rintro ⟨f', hread, n₁, ⟨hs, rfl⟩, n₂, ⟨hp, rfl⟩, heq⟩
    exact ⟨f', hread, hs, hp, (Option.some.inj heq).symm⟩
  · rintro ⟨f', hread, hs, hp, rfl⟩
    exact ⟨f', hread, _, ⟨hs, rfl⟩, _, ⟨hp, rfl⟩, rfl⟩

theorem holds_extend {before after : CArray 50} {is : Token → Bool} {t : Token} {m : List UInt8}
    (his : ∀ t, is (t.extend m) = is t) (hlast : lastField is req.received = some t)
    (h : Holds before after is ((formTokens req.received).map (Token.extend m))) :
    cstr after.bytes = cstr (t.extend m).value ∧ 0 ∈ after.bytes := by
  unfold Holds at h
  rw [getLast?_filter_extend m his, show ((formTokens req.received).filter is).getLast? = some t from
    hlast] at h
  exact h

theorem mem_of_lastField {is : Token → Bool} {t : Token} {received : List UInt8}
    (h : lastField is received = some t) : t ∈ formTokens received ∧ is t = true :=
  List.mem_filter.mp (List.mem_of_getLast? h)

theorem zero_notMem_extend (received m : List UInt8) :
    ∀ t ∈ (formTokens received).map (Token.extend m), 0 ∉ t.text := by
  intro t ht
  obtain ⟨t', ht', rfl⟩ := List.mem_map.mp ht
  exact zero_notMem_cut (zero_notMem_cstr _) t' ht'

/-- A well-formed body with any three buffers. -/
theorem WellFormed.handled (h : WellFormed req.received) {t t' : Token}
    (hlast : lastField Token.isSsid req.received = some t)
    (hlast' : lastField Token.isPass req.received = some t') (buf : CArray (req.contentLen + 1))
    (s p : CArray 50) :
    ∃ f' : Fields, getInfowifiHandler req ⟨some buf, some s, some p⟩
        = some (espOk, some ⟨f'.ssid, (cstr f'.ssid.bytes).length, f'.pass,
            (cstr f'.pass.bytes).length⟩)
      ∧ (cstr f'.ssid.bytes = cstr t.value ∧ 0 ∈ f'.ssid.bytes)
      ∧ (cstr f'.pass.bytes = cstr t'.value ∧ 0 ∈ f'.pass.bytes) := by
  obtain ⟨hmem, his⟩ := mem_of_lastField hlast
  obtain ⟨hmem', his'⟩ := mem_of_lastField hlast'
  obtain ⟨hiff, hholds⟩ := foldlM_copyToken ⟨s, p⟩ _
    (zero_notMem_extend req.received (buf.bytes.drop req.received.length))
  have hall : ∀ t ∈ (formTokens req.received).map
      (Token.extend (buf.bytes.drop req.received.length)),
      t.isSsid = true ∨ t.isPass = true → t.Fits := by
    intro t ht hfield
    obtain ⟨t₀, ht₀, rfl⟩ := List.mem_map.mp ht
    exact (h.values t₀ ht₀ hfield).extend hfield
  obtain ⟨f', hfold⟩ := hiff.mpr hall
  obtain ⟨hssid, hpass⟩ := hholds f' hfold
  have hfield := holds_extend (fun _ => rfl) hlast hssid
  have hfield' := holds_extend (fun _ => rfl) hlast' hpass
  rw [cstr_value_extend (Or.inl his) (h.values t hmem (Or.inl his))] at hfield
  rw [cstr_value_extend (Or.inr his') (h.values t' hmem' (Or.inr his'))] at hfield'
  have hread := (readTokens_request h.nul buf _).trans hfold
  exact ⟨f', getInfowifiHandler_eq_some.mpr ⟨f', hread, hfield.2, hfield'.2, rfl⟩, hfield, hfield'⟩

theorem contained_of_wellFormed (h : WellFormed req.received) : Contained req := by
  obtain ⟨t, hlast, hshort⟩ := h.ssid
  obtain ⟨t', hlast'⟩ := h.pass
  refine ⟨cstr t.value, cstr t'.value, fun m => ?_⟩
  rcases m with ⟨_ | buf, _ | s, _ | p⟩
  case some.some.some =>
    obtain ⟨f', hhandler, ⟨htext, hnul⟩, ⟨htext', hnul'⟩⟩ := h.handled hlast hlast' buf s p
    refine ⟨_, _, hhandler, fun a ha => ?_⟩
    cases ha
    refine ⟨htext, htext', fun info => ?_⟩
    rw [setCallbackWifiinfo_isSome_iff info hnul hnul', htext]
    exact ⟨hshort, (length_lt_of_zero_mem hnul').le.trans (by decide)⟩
  -- without memory the handler gives up before it touches any
  all_goals exact ⟨espFail, none, rfl, fun a ha => (by cases ha)⟩

/-- An array without a NUL. -/
def ones (n : Nat) : CArray n := ⟨List.replicate n 1, List.length_replicate⟩

theorem zero_notMem_ones (n : Nat) : 0 ∉ (ones n).bytes := by
  intro h
  exact absurd (List.eq_of_mem_replicate h) (by decide)

theorem exists_lastField {after : CArray 50} {is : Token → Bool} {m : List UInt8}
    (his : ∀ t, is (t.extend m) = is t) (hnul : 0 ∈ after.bytes)
    (h : Holds (ones 50) after is ((formTokens req.received).map (Token.extend m))) :
    ∃ t, lastField is req.received = some t := by
  cases hlast : lastField is req.received with
  | some t => exact ⟨t, rfl⟩
  | none =>
    unfold Holds at h
    rw [getLast?_filter_extend m his, show ((formTokens req.received).filter is).getLast? = none from
      hlast] at h
    exact absurd (h ▸ hnul) (zero_notMem_ones 50)

/-- One content of the buffers is enough to see what is wrong with a body: one without any NUL. -/
theorem wellFormed_of_contained (h : Contained req) : WellFormed req.received := by
  obtain ⟨ssid, pass, hall⟩ := h
  obtain ⟨ret, args, hhandler, hargs⟩ :=
    hall ⟨some (ones _), some (ones 50), some (ones 50)⟩
  obtain ⟨f', hread, hnul, hnul', hret⟩ := getInfowifiHandler_eq_some.mp hhandler
  cases hret
  have htail : 0 ∉ (ones (req.contentLen + 1)).bytes.drop req.received.length :=
    fun hmem => zero_notMem_ones _ (List.mem_of_mem_drop hmem)
  have hreceived : 0 ∈ req.received := by
    by_contra hno
    rw [readTokens_fault] at hread
    · cases hread
    · unfold httpdReqRecv
      rw [List.mem_append]
      exact fun hmem => hmem.elim hno htail
  rw [readTokens_request hreceived] at hread
  obtain ⟨hiff, hholds⟩ := foldlM_copyToken ⟨ones 50, ones 50⟩ _
    (zero_notMem_extend req.received ((ones (req.contentLen + 1)).bytes.drop req.received.length))
  obtain ⟨hssid, hpass⟩ := hholds f' hread
  have hvalues : ∀ t ∈ formTokens req.received, t.isSsid = true ∨ t.isPass = true → t.Fits :=
    fun t ht hfield =>
      fits_of_extend hfield htail (hiff.mp ⟨f', hread⟩ _ (List.mem_map_of_mem ht) hfield)
  obtain ⟨t, hlast⟩ := exists_lastField (fun _ => rfl) hnul hssid
  refine ⟨hreceived, hvalues, ⟨t, hlast, ?_⟩, exists_lastField (fun _ => rfl) hnul' hpass⟩
  obtain ⟨hmem, his⟩ := mem_of_lastField hlast
  have htext := (holds_extend (fun _ => rfl) hlast hssid).1
  rw [cstr_value_extend (Or.inl his) (hvalues t hmem (Or.inl his))] at htext
  -- the callback copies the SSID with its length
  have hcallback := (hargs _ rfl).2.2
    ⟨WifiConfig.zero, .selecttionModeConnect, .accesspoin, 1, 1⟩
  rw [setCallbackWifiinfo_isSome_iff _ hnul hnul', htext] at hcallback
  exact hcallback.1

end Request

/-- **The handler is safe for a request**, whatever its buffers held before, if and only if the body
is well formed. -/
theorem contained_iff (req : HttpdReq) : Contained req ↔ WellFormed req.received :=
  ⟨wellFormed_of_contained, contained_of_wellFormed⟩

/-- `ssid=a&pass=b` is well formed if the client sends its NUL. -/
example : WellFormed (ascii ['s', 's', 'i', 'd', '=', 'a', '&', 'p', 'a', 's', 's', '=', 'b'] ++ [0]) where
  nul := by decide
  values := by decide
  ssid := ⟨_, rfl, by decide⟩
  pass := ⟨_, rfl⟩

/-- The page posts its body without a NUL: the scan goes on behind the received bytes. -/
theorem posted_not_contained :
    ¬ Contained (posted (ascii ['f', 'a', 'n']) (ascii ['p', 'a', 's', 's', 'w', 'o', 'r', 'd'])) := by
  intro h
  obtain ⟨ssid, pass, hall⟩ := h
  obtain ⟨ret, args, hhandler, -⟩ := hall ⟨some (ones _), some (ones 50), some (ones 50)⟩
  obtain ⟨f', hread, -⟩ := getInfowifiHandler_eq_some.mp hhandler
  rw [readTokens_fault _ _ (by decide +kernel)] at hread
  cases hread

end ControlFan.Web
