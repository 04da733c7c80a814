import ControlFan.Lib.CBuffer
import ControlFan.Wifi.Provision

/-!
# Wifi — the credentials that the callback stores (`app_config.c`)

`set_callback_wifiinfo` copies the posted SSID and password with `strncpy` and the lengths of the two
strings, so that neither copy writes a NUL. What the fields held before shows behind a shorter value:
an earlier network, or the marker of a failed attempt.

* **`setCallbackWifiinfo`** — the callback, with its accesses checked;
* **`cstr_copied_iff`** — when a field reads as what was copied into it;
* **`credentials_stored_iff`** — the same for the whole callback.
-/

namespace ControlFan.Wifi

open CString CBuffer

/-- `set_callback_wifiinfo`; `none` is an access outside of one of the arrays. -/
def setCallbackWifiinfo (info : InfoConfigWifi) (ssid : List UInt8) (lengssid : Nat)
    (pass : List UInt8) (lengpass : Nat) : Option InfoConfigWifi := do
  let ssid' ← strncpy info.wifiConfig.ssid ssid lengssid
  let pass' ← strncpy info.wifiConfig.password pass lengpass
  return { info with wifiConfig := { info.wifiConfig with ssid := ssid', password := pass' } }

/-- The value fills its field, or the field has a NUL behind it. -/
def EndsAt {n : Nat} (field : CArray n) (len : Nat) : Prop := len = n ∨ field.bytes[len]? = some 0

instance {n : Nat} (field : CArray n) (len : Nat) : Decidable (EndsAt field len) :=
  inferInstanceAs (Decidable (_ ∨ _))

theorem endsAt_iff {n : Nat} {field : CArray n} {len : Nat} (hlen : len ≤ n) :
    EndsAt field len ↔ cstr (field.bytes.drop len) = [] := by
  have hfield := field.hlen
  unfold EndsAt
  rw [← deref_eq_zero_iff]
  rcases Nat.lt_or_eq_of_le hlen with hlt | rfl
  · have hlt' : len < field.bytes.length := by omega
    rw [List.drop_eq_getElem_cons hlt', List.getElem?_eq_getElem hlt', deref_cons, Option.some_inj,
      or_iff_right (by omega)]
  · rw [List.drop_eq_nil_of_le (by omega)]
    simp

/-- A field that holds a copied string and then its old content. -/
theorem cstr_copied_iff {n : Nat} {field field' : CArray n} {s : List UInt8} (hs : 0 ∉ s)
    (hlen : s.length ≤ n) (hcopy : field'.bytes = s ++ field.bytes.drop s.length) :
    cstr field'.bytes = s ↔ EndsAt field s.length := by
  rw [hcopy, cstr_append hs, List.append_right_eq_self, endsAt_iff hlen]

/-- The callback for `ssid` and `pass`, whatever stands behind the two strings, leaves exactly these in
their fields and everything else as it was. -/
def Stores (info : InfoConfigWifi) (ssid pass behind behind' : List UInt8) : Prop :=
  ∃ info', setCallbackWifiinfo info (ssid ++ 0 :: behind) ssid.length (pass ++ 0 :: behind')
        pass.length = some info'
    ∧ cstr info'.wifiConfig.ssid.bytes = ssid ∧ cstr info'.wifiConfig.password.bytes = pass
    ∧ info' = { info with
        wifiConfig :=
          { info.wifiConfig with
            ssid := info'.wifiConfig.ssid, password := info'.wifiConfig.password } }

/-- The callback stays inside its fields. -/
theorem setCallbackWifiinfo_isSome_iff (info : InfoConfigWifi) {ssid pass : List UInt8} (hssid : 0 ∈ ssid)
    (hpass : 0 ∈ pass) (lengssid lengpass : Nat) :
    (setCallbackWifiinfo info ssid lengssid pass lengpass).isSome ↔ lengssid ≤ 32 ∧ lengpass ≤ 64 := by
  rw [← strncpy_isSome_iff info.wifiConfig.ssid hssid lengssid,
    ← strncpy_isSome_iff info.wifiConfig.password hpass lengpass]
  unfold setCallbackWifiinfo
  cases strncpy info.wifiConfig.ssid ssid lengssid with
  | none => simp
  | some a =>
    cases strncpy info.wifiConfig.password pass lengpass with
    | none => simp
    | some b => simp

/-- Two strings that fit are copied in front of the old contents. -/
theorem setCallbackWifiinfo_eq (info : InfoConfigWifi) {ssid pass : List UInt8} (hssid : 0 ∉ ssid)
    (hpass : 0 ∉ pass) (hlengssid : ssid.length ≤ 32) (hlengpass : pass.length ≤ 64)
    (behind behind' : List UInt8) :
    ∃ ssid' pass', setCallbackWifiinfo info (ssid ++ 0 :: behind) ssid.length
          (pass ++ 0 :: behind') pass.length
        = some { info with wifiConfig := { info.wifiConfig with ssid := ssid', password := pass' } }
      ∧ ssid'.bytes = ssid ++ info.wifiConfig.ssid.bytes.drop ssid.length
      ∧ pass'.bytes = pass ++ info.wifiConfig.password.bytes.drop pass.length := by
  obtain ⟨ssid', hcopy, hbytes⟩ :=
    strncpy_append_zero info.wifiConfig.ssid hssid hlengssid behind
  obtain ⟨pass', hcopy', hbytes'⟩ :=
    strncpy_append_zero info.wifiConfig.password hpass hlengpass behind'
  refine ⟨ssid', pass', ?_, hbytes, hbytes'⟩
  unfold setCallbackWifiinfo
  rw [hcopy, hcopy']
  rfl

/-- **The stored credentials** are the posted ones, for any earlier content of the configuration,
exactly if in both fields the new value ends where the old content has a NUL, or fills the field. -/
theorem credentials_stored_iff (info : InfoConfigWifi) {ssid pass : List UInt8} (hssid : 0 ∉ ssid)
    (hpass : 0 ∉ pass) (hlengssid : 0 < ssid.length ∧ ssid.length ≤ 32) (hlengpass : pass.length ≤ 64)
    (behind behind' : List UInt8) :
    Stores info ssid pass behind behind'
      ↔ EndsAt info.wifiConfig.ssid ssid.length ∧ EndsAt info.wifiConfig.password pass.length := by
  obtain ⟨ssid', pass', hstored, hbytes, hbytes'⟩ :=
    setCallbackWifiinfo_eq info hssid hpass hlengssid.2 hlengpass behind behind'
  rw [← cstr_copied_iff hssid hlengssid.2 hbytes, ← cstr_copied_iff hpass hlengpass hbytes']
  constructor
  · intro h
    obtain ⟨info', hinfo, hread, hread', -⟩ := h
    rw [hstored] at hinfo
    cases hinfo
    exact ⟨hread, hread'⟩
  · intro h
    exact ⟨_, hstored, h.1, h.2, rfl⟩

/-- The configuration that a device without any starts with, and `fan`/`pw`. -/
theorem credentials_stored_first :
    Stores ⟨WifiConfig.zero, .selecttionModeConnect, .accesspoin, 1, 1⟩ (ascii ['f', 'a', 'n'])
      (ascii ['p', 'w']) [] [] :=
  (credentials_stored_iff _ (by decide) (by decide) (by decide) (by decide) [] []).mpr (by decide)

/-- Behind a failed attempt the field holds `ssiderr`, and then `fanderr` instead of `fan`. -/
theorem marker_shows_through :
    ¬ Stores ⟨WifiConfig.zero.markErr, .selecttionModeConnect, .accesspoin, 1, 1⟩
        (ascii ['f', 'a', 'n']) (ascii ['p', 'w']) [] [] := by
  intro h
  obtain ⟨info', hinfo, hread, -, -⟩ := h
  cases hinfo
  revert hread
  decide +kernel

end ControlFan.Wifi
