import ControlFan.Esp
import ControlFan.Lib.CString
import ControlFan.Lib.Machine
import ControlFan.Wifi.Connect

/-!
# Wifi — the provisioning state machine (`app_config.c`, `smart_config.c`, `main/blynk.c`)

`handler_task` calls `handle_connect_wifi` every 200 ms. A tick in
`SELECTTION_MODE_CONNECT` reads the stored configuration once, starts a SmartConfig session
if there is no usable SSID and `sta` is armed, and moves on to `CONNECT_WIFI` if there is
one; a tick there makes one `wifi_connect_iot` call. The SSID field doubles as the marker of
a failed attempt (`"ssiderr"`).

* **`appConfig_cases`**, **`connectWifi_cases`** — everything a tick can do;
* **`provisioning_safe_run`** — the safety of the state machine over every run: its states,
  the SSIDs it connects with, and the WIFI_CONNECTTED events it posts;
* **`not_dead_iff_run`** — a run never reaches a dead state exactly when every SmartConfig
  session that ends has last delivered a usable SSID.
-/

namespace ControlFan.Wifi

open CString Machine

/-! ## Data -/

/-- The `sta` part of `wifi_config_t`, as far as the firmware writes it. -/
structure WifiConfig where
  ssid : CArray 32
  password : CArray 64
  bssidSet : Bool
  bssid : CArray 6
  deriving DecidableEq, Repr

def WifiConfig.zero : WifiConfig :=
  { ssid := CArray.zero 32, password := CArray.zero 64, bssidSet := false, bssid := CArray.zero 6 }

inductive ProvisionType where
  | smartconfig
  | accesspoin
  deriving DecidableEq, Repr

inductive StatusConnectWifi where
  | normal
  | selecttionModeConnect
  | connectWifi
  | eraseFlash
  | connectError
  deriving DecidableEq, Repr

structure InfoConfigWifi where
  wifiConfig : WifiConfig
  statusConnect : StatusConnectWifi
  provisionType : ProvisionType
  sta : UInt8
  blockInit : UInt8
  deriving DecidableEq, Repr

/-- The globals of `app_config.c`, the statics of `wifi_iot.c`, the events posted to the
default loop and not handled yet, and what `otadrive_event_handler` has created. -/
structure App where
  info : InfoConfigWifi
  provisioned : UInt8 := 0
  station : Station := {}
  posted : List OtadriveEvent := []
  otaTasks : Nat := 0
  mqttClients : Nat := 0
  deriving DecidableEq, Repr

def App.halt (a : App) : App := { a with station := { a.station with halted := true } }

inductive Output where
  | softAp
  | wifiConnectIot (ssid : CArray 32)
  | returned (ret : Int)
  | post (e : OtadriveEvent)
  deriving DecidableEq, Repr

/-! ## SmartConfig -/

structure GotSsidPswd where
  ssid : CArray 32
  password : CArray 64
  bssidSet : Bool := false
  bssid : CArray 6 := CArray.zero 6
  deriving DecidableEq, Repr

inductive ScEvent where
  | staStart
  | scanDone
  | foundChannel
  | gotSsidPswd (evt : GotSsidPswd)
  | sendAckDone
  deriving DecidableEq, Repr

/-- `event_handler` of `smart_config.c`, on `*wifi_config` and `ESPTOUCH_DONE_BIT`. -/
def scEventHandler : WifiConfig × Bool → ScEvent → WifiConfig × Bool
  | _, .gotSsidPswd evt =>
    ({ ssid := evt.ssid
       password := evt.password
       bssidSet := evt.bssidSet
       bssid := if evt.bssidSet then evt.bssid else CArray.zero 6 }, true)
  | (cfg, _), .sendAckDone => (cfg, true)
  | s, .staStart => s
  | s, .scanDone => s
  | s, .foundChannel => s

/-- `smart_config_connect`: all the events handled between the registering and the
unregistering of the handler. The second component says whether the task was released. -/
def smartConfigConnect (cfg : WifiConfig) (evs : List ScEvent) : WifiConfig × Bool :=
  evs.foldl scEventHandler (cfg, false)

/-! ## A tick -/

def sampleErr : List UInt8 := ascii ['s', 's', 'i', 'd', 'e', 'r', 'r']

/-- The outcome of `wifi_init`: a failed check, `esp_wifi_init` failing, or the stored
configuration read from flash. -/
inductive WifiInit where
  | abort
  | error
  | ok (stored : WifiConfig)
  deriving DecidableEq, Repr

/-- What a tick meets; which of it is used depends on the state. A session is `none` when
one of its checks fails. -/
structure Tick where
  wifiInit : WifiInit := .error
  session : Option (List ScEvent) := none
  attempt : Attempt := { timeOut := 3, later := [] }
  deriving DecidableEq, Repr

def wifiInit (info : InfoConfigWifi) : WifiInit → Option InfoConfigWifi
  | .abort => none
  -- `esp_wifi_init` failed: nothing is read, and `sta` stays as `app_config_init` left it
  | .error => some info
  | .ok stored => some { info with wifiConfig := stored, sta := 1 }

/-- The test of `is_provisioned`: no SSID, or the marker of a failed attempt. -/
def WifiConfig.Unusable (cfg : WifiConfig) : Prop :=
  deref cfg.ssid.bytes = 0 ∨ strcmp cfg.ssid.bytes sampleErr = 0

instance (cfg : WifiConfig) : Decidable cfg.Unusable := by
  unfold WifiConfig.Unusable
  infer_instance

def isProvisioned (info : InfoConfigWifi) (w : WifiInit) : Option InfoConfigWifi :=
  if info.blockInit = 1 then wifiInit { info with blockInit := 0 } w else some info

/-- The SmartConfig branch of `app_config`, with `sta` already cleared. -/
def App.runSession (a : App) : Option (List ScEvent) → App × List Output
  | none => (a.halt, [])
  | some evs =>
    let (cfg, released) := smartConfigConnect a.info.wifiConfig evs
    let a := { a with info := { a.info with wifiConfig := cfg } }
    -- without a release the task waits in `xEventGroupWaitBits` for good
    (if released then a else a.halt, [])

def appConfig (a : App) (t : Tick) : App × List Output :=
  match isProvisioned a.info t.wifiInit with
  | none => (a.halt, [])
  | some info =>
    if info.wifiConfig.Unusable then
      if info.provisionType = .smartconfig ∧ info.sta = 1 then
        ({ a with info := { info with sta := 0 }, provisioned := 1 }).runSession t.session
      else if info.provisionType = .accesspoin ∧ info.sta = 1 then
        ({ a with info := { info with sta := 0 }, provisioned := 1 }, [.softAp])
      else ({ a with info := info, provisioned := 1 }, [])
    else ({ a with info := { info with statusConnect := .connectWifi }, provisioned := 0 }, [])

def WifiConfig.markErr (cfg : WifiConfig) : WifiConfig :=
  -- `strcpy` stops behind the NUL: the rest of the old SSID stays
  { cfg with
    ssid := ⟨sampleErr ++ 0 :: cfg.ssid.bytes.drop 8, by
      simp [sampleErr, ascii, cfg.ssid.hlen]⟩ }

/-- `connect_wifi`. A call that does not come back leaves the task in it. -/
def connectWifi (a : App) (t : Tick) : App × List Output :=
  let (station, calls) := wifiConnectIot a.station { t.attempt with timeOut := 3 }
  let a := { a with station := station }
  match calls with
  | [] => (a, [.wifiConnectIot a.info.wifiConfig.ssid])
  | c :: _ =>
    let outs : List Output := [.wifiConnectIot a.info.wifiConfig.ssid, .returned c.ret]
    if c.ret = espOk then
      ({ a with
          posted := a.posted ++ [.wifiConnectted]
          info := { a.info with statusConnect := .normal } },
        outs ++ [.post .wifiConnectted])
    else if c.ret = espFail then
      ({ a with
          info :=
            { a.info with
              wifiConfig := a.info.wifiConfig.markErr
              statusConnect := .selecttionModeConnect
              sta := 1 } },
        outs)
    else (a, outs)

def handleConnectWifi (a : App) (t : Tick) : App × List Output :=
  if a.station.halted then (a, [])
  else
    match a.info.statusConnect with
    -- NORMAL, ERASE_FLASH and CONNECT_ERROR are empty cases
    | .normal => (a, [])
    | .selecttionModeConnect => appConfig a t
    | .connectWifi => connectWifi a t
    | .eraseFlash => (a, [])
    | .connectError => (a, [])

/-! ## The application -/

/-- `otadrive_event_handler`: the OTA task and the MQTT client are created on
WIFI_CONNECTTED, everything else is logged. -/
def otadriveEventHandler (a : App) : OtadriveEvent → App
  | .wifiConnectted =>
    { a with otaTasks := a.otaTasks + 1, mqttClients := a.mqttClients + 1 }
  | _ => a

/-- What happens next: a tick, the event loop handles the oldest posted event, or the OTA
driver posts one of its own. -/
inductive Input where
  | tick (t : Tick)
  | dispatch
  | driverPost (e : OtadriveEvent) (hne : e ≠ .wifiConnectted)

def App.step (a : App) : Input → App × List Output
  | .tick t => handleConnectWifi a t
  | .dispatch =>
    match a.posted with
    | [] => (a, [])
    | e :: posted => (otadriveEventHandler { a with posted := posted } e, [])
  | .driverPost e _ => ({ a with posted := a.posted ++ [e] }, [])

/-- `app_config_init` on the zeroed globals. -/
def appConfigInit : App :=
  { info :=
      { wifiConfig := WifiConfig.zero
        statusConnect := .selecttionModeConnect
        provisionType := .smartconfig
        sta := 1
        blockInit := 1 } }

/-! ## What the steps can do -/

theorem cstr_eq_nil_iff (m : List UInt8) : cstr m = [] ↔ deref m = 0 := by
  cases m with
  | nil => simp
  | cons x m =>
    by_cases hx : x = 0
    · simp [hx]
    · simp [hx, cstr_cons_of_ne hx]

def UsableSsid (ssid : CArray 32) : Prop :=
  cstr ssid.bytes ≠ [] ∧ cstr ssid.bytes ≠ sampleErr

theorem unusable_iff (cfg : WifiConfig) : cfg.Unusable ↔ ¬ UsableSsid cfg.ssid := by
  have hmarker : cstr sampleErr = sampleErr := by decide
  unfold WifiConfig.Unusable UsableSsid
  rw [← cstr_eq_nil_iff, strcmp_eq_zero_iff, hmarker]
  tauto

/-- `is_provisioned` reads the configuration at most once and touches nothing else but `sta`. -/
theorem isProvisioned_some {info info' : InfoConfigWifi} {w : WifiInit}
    (h : isProvisioned info w = some info') :
    info'.statusConnect = info.statusConnect ∧ info'.provisionType = info.provisionType
      ∧ info'.blockInit ≠ 1
      ∧ ((info.blockInit ≠ 1 ∧ info' = info)
          ∨ (info.blockInit = 1 ∧ (info'.sta = info.sta ∨ info'.sta = 1))) := by
  unfold isProvisioned at h
  by_cases hblock : info.blockInit = 1
  · rw [if_pos hblock] at h
    cases w with
    | abort => exact absurd h (by simp [wifiInit])
    | error =>
      obtain rfl := Option.some.inj h
      exact ⟨rfl, rfl, show (0 : UInt8) ≠ 1 by decide, Or.inr ⟨hblock, Or.inl rfl⟩⟩
    | ok stored =>
      obtain rfl := Option.some.inj h
      exact ⟨rfl, rfl, show (0 : UInt8) ≠ 1 by decide, Or.inr ⟨hblock, Or.inr rfl⟩⟩
  · rw [if_neg hblock] at h
    obtain rfl := Option.some.inj h
    exact ⟨rfl, rfl, hblock, Or.inl ⟨hblock, rfl⟩⟩

/-- Everything a tick in `SELECTTION_MODE_CONNECT` can do. -/
theorem appConfig_cases (a : App) (t : Tick) :
    (isProvisioned a.info t.wifiInit = none ∧ appConfig a t = (a.halt, []))
      ∨ ∃ info, isProvisioned a.info t.wifiInit = some info ∧
        ((¬ info.wifiConfig.Unusable ∧ appConfig a t
            = ({ a with info := { info with statusConnect := .connectWifi }, provisioned := 0 }, []))
          ∨ (info.wifiConfig.Unusable ∧ info.provisionType = .smartconfig ∧ info.sta = 1
              ∧ appConfig a t
                = ({ a with info := { info with sta := 0 }, provisioned := 1 }).runSession t.session)
          ∨ (info.wifiConfig.Unusable ∧ info.provisionType = .accesspoin ∧ info.sta = 1
              ∧ appConfig a t
                = ({ a with info := { info with sta := 0 }, provisioned := 1 }, [.softAp]))
          ∨ (info.wifiConfig.Unusable ∧ info.sta ≠ 1
              ∧ appConfig a t = ({ a with info := info, provisioned := 1 }, []))) := by
  cases hinfo : isProvisioned a.info t.wifiInit with
  | none => exact Or.inl ⟨rfl, by simp [appConfig, hinfo]⟩
  | some info =>
    refine Or.inr ⟨info, rfl, ?_⟩
    by_cases hun : info.wifiConfig.Unusable
    · by_cases hsta : info.sta = 1
      · cases htype : info.provisionType with
        | smartconfig =>
          exact Or.inr (Or.inl ⟨hun, rfl, hsta, by simp [appConfig, hinfo, hun, hsta, htype]⟩)
        | accesspoin =>
          exact Or.inr (Or.inr (Or.inl ⟨hun, rfl, hsta, by
            simp [appConfig, hinfo, hun, hsta, htype]⟩))
      · exact Or.inr (Or.inr (Or.inr ⟨hun, hsta, by simp [appConfig, hinfo, hun, hsta]⟩))
    · exact Or.inl ⟨hun, by simp [appConfig, hinfo, hun]⟩

theorem runSession_frame (a : App) (session : Option (List ScEvent)) :
    (a.runSession session).1.info.statusConnect = a.info.statusConnect
      ∧ (a.runSession session).1.posted = a.posted
      ∧ (a.runSession session).1.otaTasks = a.otaTasks
      ∧ (a.runSession session).1.mqttClients = a.mqttClients
      ∧ (a.runSession session).2 = [] := by
  cases session with
  | none => exact ⟨rfl, rfl, rfl, rfl, rfl⟩
  | some evs =>
    cases hrel : (smartConfigConnect a.info.wifiConfig evs).2 <;>
      simp [App.runSession, App.halt, hrel]

/-- Everything a tick in `CONNECT_WIFI` can do: the call does not come back, it returns
ESP_OK, or it returns ESP_FAIL. -/
theorem connectWifi_cases (a : App) (t : Tick) :
    ∃ station,
      (connectWifi a t = ({ a with station := station }, [.wifiConnectIot a.info.wifiConfig.ssid]))
        ∨ (connectWifi a t
            = ({ a with
                  station := station
                  posted := a.posted ++ [.wifiConnectted]
                  info := { a.info with statusConnect := .normal } },
                [.wifiConnectIot a.info.wifiConfig.ssid, .returned espOk, .post .wifiConnectted]))
        ∨ (connectWifi a t
            = ({ a with
                  station := station
                  info :=
                    { a.info with
                      wifiConfig := a.info.wifiConfig.markErr
                      statusConnect := .selecttionModeConnect
                      sta := 1 } },
                [.wifiConnectIot a.info.wifiConfig.ssid, .returned espFail])) := by
  refine ⟨(wifiConnectIot a.station { t.attempt with timeOut := 3 }).1, ?_⟩
  cases hcalls : (wifiConnectIot a.station { t.attempt with timeOut := 3 }).2 with
  | nil => exact Or.inl (by simp [connectWifi, hcalls])
  | cons c cs =>
    have hmem : c ∈ (wifiConnectIot a.station { t.attempt with timeOut := 3 }).2 := by
      rw [hcalls]
      exact List.mem_cons_self
    obtain ⟨-, hret, -⟩ := call_spec hmem
    by_cases hbit : (run handle (a.station.begin 3) c.seen).1.wifiConnectedBit = true
    · rw [if_pos hbit] at hret
      exact Or.inr (Or.inl (by simp [connectWifi, hcalls, hret]))
    · rw [if_neg hbit] at hret
      exact Or.inr (Or.inr (by simp [connectWifi, hcalls, hret, espOk, espFail]))

/-! ## Safety -/

/-- One once the status is NORMAL, none before. -/
def App.connected (a : App) : Nat := if a.info.statusConnect = .normal then 1 else 0

theorem connected_of_normal {a : App} (h : a.info.statusConnect = .normal) : a.connected = 1 :=
  if_pos h

theorem connected_of_ne {a : App} (h : a.info.statusConnect ≠ .normal) : a.connected = 0 :=
  if_neg h

theorem connected_le_one (a : App) : a.connected ≤ 1 := by
  unfold App.connected
  split <;> omega

/-- The invariant behind the safety of the state machine: the three states in use, a usable
SSID whenever the next tick connects, and one OTA task (created or still to be created)
once the status is NORMAL, none before. -/
structure Safe (a : App) : Prop where
  status : a.info.statusConnect = .normal ∨ a.info.statusConnect = .selecttionModeConnect
    ∨ a.info.statusConnect = .connectWifi
  usable : a.info.statusConnect = .connectWifi → ¬ a.info.wifiConfig.Unusable
  created : a.otaTasks + a.posted.count .wifiConnectted = a.connected
  clients : a.mqttClients = a.otaTasks

theorem safe_init : Safe appConfigInit where
  status := Or.inr (Or.inl rfl)
  usable := by decide
  created := rfl
  clients := rfl

/-- What one step promises: NORMAL is not left, connects are made with a usable SSID, and a
WIFI_CONNECTTED is posted exactly on the ESP_OK that brings the status to NORMAL. -/
structure StepSafe (a a' : App) (outs : List Output) : Prop where
  keeps_normal : a.info.statusConnect = .normal → a'.info.statusConnect = .normal
  connects_usable : ∀ ssid, .wifiConnectIot ssid ∈ outs → UsableSsid ssid
  posts_iff_ok : .post .wifiConnectted ∈ outs ↔ .returned espOk ∈ outs
  posts_normal : outs.count (.post .wifiConnectted) + a.connected = a'.connected

/-- A step without outputs that moves the status neither to nor from NORMAL. -/
theorem StepSafe.quiet {a a' : App} {outs : List Output}
    (hstatus : a'.info.statusConnect = .normal ↔ a.info.statusConnect = .normal)
    (houts : ∀ o ∈ outs, o = .softAp) : StepSafe a a' outs where
  keeps_normal := hstatus.mpr
  connects_usable := fun ssid hmem => absurd (houts _ hmem) (by simp)
  posts_iff_ok :=
    ⟨fun hmem => absurd (houts _ hmem) (by simp), fun hmem => absurd (houts _ hmem) (by simp)⟩
  posts_normal := by
    have hcount : outs.count (.post .wifiConnectted) = 0 :=
      List.count_eq_zero.mpr fun hmem => absurd (houts _ hmem) (by simp)
    rw [hcount]
    simp [App.connected, hstatus]

theorem appConfig_safe {a : App} (hsafe : Safe a)
    (hsel : a.info.statusConnect = .selecttionModeConnect) (t : Tick) :
    Safe (appConfig a t).1 ∧ StepSafe a (appConfig a t).1 (appConfig a t).2 := by
  -- only the status and the SSID of the next state matter
  have hframe : ∀ a' : App, a'.posted = a.posted → a'.otaTasks = a.otaTasks →
      a'.mqttClients = a.mqttClients →
      (a'.info.statusConnect = .selecttionModeConnect
        ∨ (a'.info.statusConnect = .connectWifi ∧ ¬ a'.info.wifiConfig.Unusable)) → Safe a' := by
    intro a' hposted htasks hclients hstatus
    have hcreated := hsafe.created
    rw [connected_of_ne (by simp [hsel]), ← hposted, ← htasks] at hcreated
    have hclients' : a'.mqttClients = a'.otaTasks := by rw [hclients, htasks, hsafe.clients]
    rcases hstatus with hst | ⟨hst, hus⟩
    · refine ⟨Or.inr (Or.inl hst), by simp [hst], ?_, hclients'⟩
      rw [connected_of_ne (by simp [hst])]
      exact hcreated
    · refine ⟨Or.inr (Or.inr hst), fun _ => hus, ?_, hclients'⟩
      rw [connected_of_ne (by simp [hst])]
      exact hcreated
  have hne : ¬ a.info.statusConnect = .normal := by simp [hsel]
  rcases appConfig_cases a t with ⟨-, h⟩ | ⟨info, hinfo, h⟩
  · rw [h]
    exact ⟨hframe a.halt rfl rfl rfl (Or.inl hsel), StepSafe.quiet Iff.rfl (by simp)⟩
  · have hst : info.statusConnect = .selecttionModeConnect := by
      rw [(isProvisioned_some hinfo).1, hsel]
    have hst_ne : ¬ info.statusConnect = .normal := by simp [hst]
    rcases h with ⟨hus, h⟩ | ⟨-, -, -, h⟩ | ⟨-, -, -, h⟩ | ⟨-, -, h⟩
    · rw [h]
      exact ⟨hframe _ rfl rfl rfl (Or.inr ⟨rfl, hus⟩), StepSafe.quiet (by simp [hne]) (by simp)⟩
    · rw [h]
      obtain ⟨hstatus, hposted, htasks, hclients, houts⟩ :=
        runSession_frame { a with info := { info with sta := 0 }, provisioned := 1 } t.session
      rw [houts]
      exact ⟨hframe _ hposted htasks hclients (Or.inl (hstatus.trans hst)),
        StepSafe.quiet (by rw [hstatus]; simp [hne, hst_ne]) (by simp)⟩
    · rw [h]
      exact ⟨hframe _ rfl rfl rfl (Or.inl hst), StepSafe.quiet (by simp [hne, hst_ne]) (by simp)⟩
    · rw [h]
      exact ⟨hframe _ rfl rfl rfl (Or.inl hst), StepSafe.quiet (by simp [hne, hst_ne]) (by simp)⟩

theorem connectWifi_safe {a : App} (hsafe : Safe a) (hconn : a.info.statusConnect = .connectWifi)
    (t : Tick) : Safe (connectWifi a t).1 ∧ StepSafe a (connectWifi a t).1 (connectWifi a t).2 := by
  have hnone : a.connected = 0 := connected_of_ne (by simp [hconn])
  have hcreated := hsafe.created
  rw [hnone] at hcreated
  have husable : UsableSsid a.info.wifiConfig.ssid := by
    have h := hsafe.usable hconn
    rw [unusable_iff] at h
    exact not_not.mp h
  obtain ⟨station, h | h | h⟩ := connectWifi_cases a t
  · -- the call does not come back
    rw [h]
    refine ⟨⟨hsafe.status, hsafe.usable, hsafe.created, hsafe.clients⟩, ?_, ?_, ?_, ?_⟩
    · exact fun hn => hn
    · simpa using husable
    · simp
    · exact Nat.zero_add _
  · -- ESP_OK: the event posted here is the only one
    rw [h]
    refine ⟨⟨Or.inl rfl, by simp, ?_, hsafe.clients⟩, ?_, ?_, ?_, ?_⟩
    · rw [List.count_append, List.count_singleton_self, connected_of_normal rfl]
      show a.otaTasks + (a.posted.count .wifiConnectted + 1) = 1
      omega
    · exact fun _ => rfl
    · simpa using husable
    · simp
    · rw [hnone, connected_of_normal rfl]
      rfl
  · -- ESP_FAIL: the marker goes into the SSID, but the status leaves `CONNECT_WIFI` with it
    rw [h]
    refine ⟨⟨Or.inr (Or.inl rfl), by simp, hcreated, hsafe.clients⟩, ?_, ?_, ?_, ?_⟩
    · exact fun hn => absurd (hconn.symm.trans hn) (by decide)
    · simpa using husable
    · simp [espOk, espFail]
    · rw [hnone]
      rfl

/-- **One step keeps the invariant** and its promises. -/
theorem step_safe {a : App} (hsafe : Safe a) (i : Input) :
    Safe (a.step i).1 ∧ StepSafe a (a.step i).1 (a.step i).2 := by
  have hstay : Safe a ∧ StepSafe a a [] := ⟨hsafe, StepSafe.quiet Iff.rfl (by simp)⟩
  obtain ⟨hstatus, husable, hcreated, hclients⟩ := hsafe
  cases i with
  | tick t =>
    by_cases hhalt : a.station.halted
    · rw [show a.step (.tick t) = (a, []) by simp [App.step, handleConnectWifi, hhalt]]
      exact hstay
    · rcases hstatus with hst | hst | hst
      · rw [show a.step (.tick t) = (a, []) by simp [App.step, handleConnectWifi, hst]]
        exact hstay
      · rw [show a.step (.tick t) = appConfig a t by
          simp [App.step, handleConnectWifi, hhalt, hst]]
        exact appConfig_safe hstay.1 hst t
      · rw [show a.step (.tick t) = connectWifi a t by
          simp [App.step, handleConnectWifi, hhalt, hst]]
        exact connectWifi_safe hstay.1 hst t
  | dispatch =>
    cases hposted : a.posted with
    | nil =>
      rw [show a.step .dispatch = (a, []) by simp [App.step, hposted]]
      exact hstay
    | cons e posted =>
      rw [show a.step .dispatch = (otadriveEventHandler { a with posted := posted } e, []) by
        simp [App.step, hposted]]
      rw [hposted] at hcreated
      -- the handled event moves from the queue to the created tasks
      by_cases he : e = .wifiConnectted
      · subst he
        rw [List.count_cons_self] at hcreated
        refine ⟨⟨hstatus, husable, ?_, congrArg (· + 1) hclients⟩,
          StepSafe.quiet Iff.rfl (by simp)⟩
        calc a.otaTasks + 1 + posted.count .wifiConnectted
            = a.otaTasks + (posted.count .wifiConnectted + 1) := by omega
          _ = a.connected := hcreated
      · rw [List.count_cons_of_ne he] at hcreated
        have hquiet : otadriveEventHandler { a with posted := posted } e
            = { a with posted := posted } := by
          cases e <;> first | rfl | exact absurd rfl he
        rw [hquiet]
        exact ⟨⟨hstatus, husable, hcreated, hclients⟩, StepSafe.quiet Iff.rfl (by simp)⟩
  | driverPost e hne =>
    rw [show a.step (.driverPost e hne) = ({ a with posted := a.posted ++ [e] }, []) from rfl]
    refine ⟨⟨hstatus, husable, ?_, hclients⟩, StepSafe.quiet Iff.rfl (by simp)⟩
    show a.otaTasks + (a.posted ++ [e]).count .wifiConnectted = a.connected
    rw [List.count_append, List.count_singleton]
    simpa [hne] using hcreated

/-- WIFI_CONNECTTED events posted over a run, counted by what they did to the status. -/
theorem posts_run {a : App} (hsafe : Safe a) (is : List Input) :
    (run App.step a is).2.count (.post .wifiConnectted) + a.connected
      = (run App.step a is).1.connected := by
  induction is generalizing a with
  | nil => exact Nat.zero_add _
  | cons i is ih =>
    obtain ⟨hsafe', hstep⟩ := step_safe hsafe i
    have hhead := hstep.posts_normal
    have htail := ih hsafe'
    rw [run_cons]
    simp only [List.count_append]
    omega

/-- **Safety of provisioning**, over every run from `app_config_init`: (a) the status is one
of the three; (b) connects are made with a usable SSID; (c) WIFI_CONNECTTED is posted
exactly on an ESP_OK, which makes the status NORMAL for good, so it is posted at most once
and at most one OTA task and one MQTT client are created. -/
theorem provisioning_safe_run (is : List Input) :
    AllSteps App.step
        (fun a i =>
          ((a.step i).1.info.statusConnect = .normal
            ∨ (a.step i).1.info.statusConnect = .selecttionModeConnect
            ∨ (a.step i).1.info.statusConnect = .connectWifi)
          ∧ (∀ ssid, .wifiConnectIot ssid ∈ (a.step i).2 → UsableSsid ssid)
          ∧ (.post .wifiConnectted ∈ (a.step i).2 ↔ .returned espOk ∈ (a.step i).2)
          ∧ (.post .wifiConnectted ∈ (a.step i).2 → (a.step i).1.info.statusConnect = .normal)
          ∧ (a.info.statusConnect = .normal → (a.step i).1.info.statusConnect = .normal))
        appConfigInit is
      ∧ (run App.step appConfigInit is).2.count (.post .wifiConnectted) ≤ 1
      ∧ (run App.step appConfigInit is).1.otaTasks ≤ 1
      ∧ (run App.step appConfigInit is).1.mqttClients ≤ 1 := by
  have hall : AllSteps App.step (fun _ _ => True) appConfigInit is :=
    AllSteps.of_forall (fun _ _ => trivial) _ _
  have hend : Safe (run App.step appConfigInit is).1 :=
    run_inv (I := Safe) (fun a i hsafe _ => (step_safe hsafe i).1) safe_init hall
  have hone := connected_le_one (run App.step appConfigInit is).1
  have htasks : (run App.step appConfigInit is).1.otaTasks ≤ 1 := by
    have hcreated := hend.created
    omega
  refine ⟨?_, ?_, htasks, by rw [hend.clients]; exact htasks⟩
  · refine AllSteps.of_inv (I := Safe) (fun a i hsafe _ => (step_safe hsafe i).1) ?_ safe_init hall
    intro a i hsafe _
    obtain ⟨hsafe', hstep⟩ := step_safe hsafe i
    refine ⟨hsafe'.status, hstep.connects_usable, hstep.posts_iff_ok, ?_, hstep.keeps_normal⟩
    -- an event posted in a step is counted in the status it ends in
    intro hpost
    by_contra hne
    have hcount := hstep.posts_normal
    rw [connected_of_ne hne] at hcount
    have hpos := List.count_pos_iff.mpr hpost
    omega
  · have hposts := posts_run safe_init is
    omega

/-! ## Dead states -/

/-- A dead state: the task runs, nothing usable is stored, and no session is armed. -/
def App.Dead (a : App) : Prop :=
  a.station.halted = false ∧ a.info.statusConnect = .selecttionModeConnect
    ∧ a.info.wifiConfig.Unusable ∧ a.info.sta = 0 ∧ a.info.blockInit ≠ 1

instance (a : App) : Decidable a.Dead := by unfold App.Dead; infer_instance

/-- No tick changes anything in a dead state. -/
theorem dead_tick {a : App} (h : a.Dead) (t : Tick) :
    (a.step (.tick t)).1.info = a.info ∧ (a.step (.tick t)).2 = [] := by
  obtain ⟨hrun, hsel, hun, hsta, hblock⟩ := h
  have hinfo : isProvisioned a.info t.wifiInit = some a.info := by simp [isProvisioned, hblock]
  have hnot : a.info.sta ≠ 1 := by rw [hsta]; decide
  have hstep : a.step (.tick t) = appConfig a t := by
    simp [App.step, handleConnectWifi, hrun, hsel]
  rw [hstep]
  simp [appConfig, hinfo, hun, hnot]

def ScEvent.ssid? : ScEvent → Option (CArray 32)
  | .gotSsidPswd evt => some evt.ssid
  | _ => none

def lastSsid (evs : List ScEvent) : Option (CArray 32) := (evs.filterMap ScEvent.ssid?).getLast?

def ScEvent.releases : ScEvent → Bool
  | .gotSsidPswd _ => true
  | .sendAckDone => true
  | _ => false

/-- A session leaves the last SSID it delivered, or the old one; one of two events ends it.
Induction on the events, from any configuration and any state of the bit. -/
theorem foldl_scEventHandler (cfg : WifiConfig) (done : Bool) (evs : List ScEvent) :
    (evs.foldl scEventHandler (cfg, done)).1.ssid = (lastSsid evs).getD cfg.ssid
      ∧ (evs.foldl scEventHandler (cfg, done)).2 = (done || evs.any ScEvent.releases) := by
  induction evs generalizing cfg done with
  | nil => simp [lastSsid]
  | cons e evs ih =>
    rw [List.foldl_cons]
    cases e with
    | gotSsidPswd evt =>
      obtain ⟨hssid, hdone⟩ := ih (scEventHandler (cfg, done) (.gotSsidPswd evt)).1 true
      have hlast : lastSsid (.gotSsidPswd evt :: evs) = some ((lastSsid evs).getD evt.ssid) := by
        rw [lastSsid, show List.filterMap ScEvent.ssid? (.gotSsidPswd evt :: evs)
          = evt.ssid :: evs.filterMap ScEvent.ssid? from rfl, List.getLast?_cons]
        rfl
      refine ⟨hssid.trans ?_, hdone.trans (by simp [ScEvent.releases])⟩
      rw [hlast]
      rfl
    | sendAckDone =>
      obtain ⟨hssid, hdone⟩ := ih cfg true
      exact ⟨hssid, hdone.trans (by simp [ScEvent.releases])⟩
    | staStart => exact ih cfg done
    | scanDone => exact ih cfg done
    | foundChannel => exact ih cfg done

def App.StartsSession (a : App) (t : Tick) : Prop :=
  a.station.halted = false ∧ a.info.statusConnect = .selecttionModeConnect
    ∧ ∃ info, isProvisioned a.info t.wifiInit = some info ∧ info.wifiConfig.Unusable
      ∧ info.provisionType = .smartconfig ∧ info.sta = 1

/-- The session, if it ends, has delivered an SSID, and the last one is usable. -/
def DeliversUsable (evs : List ScEvent) : Prop :=
  evs.any ScEvent.releases = true → ∃ ssid, lastSsid evs = some ssid ∧ UsableSsid ssid

/-- What holds as long as no dead state was reached: SmartConfig mode, and an armed session
until the stored configuration is read. -/
structure Alive (a : App) : Prop where
  smartconfig : a.info.provisionType = .smartconfig
  sta : a.info.sta = 0 ∨ a.info.sta = 1
  armed : a.info.blockInit = 1 → a.info.sta = 1
  not_dead : ¬ a.Dead

theorem alive_init : Alive appConfigInit where
  smartconfig := rfl
  sta := Or.inr rfl
  armed := fun _ => rfl
  not_dead := by decide

theorem dead_runSession_iff {a : App} (hrun : a.station.halted = false)
    (hsel : a.info.statusConnect = .selecttionModeConnect) (hun : a.info.wifiConfig.Unusable)
    (hsta : a.info.sta = 0) (hblock : a.info.blockInit ≠ 1) (evs : List ScEvent) :
    (a.runSession (some evs)).1.Dead ↔ ¬ DeliversUsable evs := by
  obtain ⟨hssid, hdone⟩ := foldl_scEventHandler a.info.wifiConfig false evs
  rw [Bool.false_or] at hdone
  have hold : ¬ UsableSsid a.info.wifiConfig.ssid := (unusable_iff _).mp hun
  cases hrel : evs.any ScEvent.releases with
  | false =>
    -- not released: the task hangs in the session, which is no dead state
    rw [hrel] at hdone
    have hhalt : (a.runSession (some evs)).1.station.halted = true := by
      simp [App.runSession, smartConfigConnect, hdone, App.halt]
    constructor
    · exact fun hdead => absurd (hdead.1.symm.trans hhalt) (by decide)
    · exact fun hdel => absurd (fun h => absurd (hrel.symm.trans h) (by decide)) hdel
  | true =>
    rw [hrel] at hdone
    have hdead : (a.runSession (some evs)).1.Dead
        ↔ ¬ UsableSsid ((lastSsid evs).getD a.info.wifiConfig.ssid) := by
      rw [← hssid, ← unusable_iff]
      simp [App.runSession, smartConfigConnect, hdone, App.Dead, hrun, hsel, hsta, hblock]
    rw [hdead, DeliversUsable, hrel]
    cases hlast : lastSsid evs with
    | none => simp [hold]
    | some ssid => simp

theorem runSession_info (a : App) (session : Option (List ScEvent)) :
    (a.runSession session).1.info.provisionType = a.info.provisionType
      ∧ (a.runSession session).1.info.sta = a.info.sta
      ∧ (a.runSession session).1.info.blockInit = a.info.blockInit := by
  cases session with
  | none => exact ⟨rfl, rfl, rfl⟩
  | some evs =>
    cases hrel : (smartConfigConnect a.info.wifiConfig evs).2 <;>
      simp [App.runSession, App.halt, hrel]

theorem appConfig_alive {a : App} (halive : Alive a) (hrun : a.station.halted = false)
    (hsel : a.info.statusConnect = .selecttionModeConnect) (t : Tick) :
    (¬ (appConfig a t).1.Dead
        ↔ ∀ evs, t.session = some evs → a.StartsSession t → DeliversUsable evs)
      ∧ (¬ (appConfig a t).1.Dead → Alive (appConfig a t).1) := by
  rcases appConfig_cases a t with ⟨hnone, h⟩ | ⟨info, hinfo, h⟩
  · have hnd : ¬ (appConfig a t).1.Dead := by
      rw [h]
      exact fun hdead => absurd hdead.1 (by simp [App.halt])
    refine ⟨⟨fun _ evs _ hstarts => ?_, fun _ => hnd⟩, fun _ => ?_⟩
    · obtain ⟨-, -, info, hinfo, -⟩ := hstarts
      exact absurd (hnone.symm.trans hinfo) (by simp)
    · rw [h] at hnd ⊢
      exact ⟨halive.smartconfig, halive.sta, halive.armed, hnd⟩
  · obtain ⟨hstatus, htype, hblock, hread⟩ := isProvisioned_some hinfo
    have hstarts_iff : a.StartsSession t ↔ info.wifiConfig.Unusable
        ∧ info.provisionType = .smartconfig ∧ info.sta = 1 := by
      unfold App.StartsSession
      simp [hrun, hsel, hinfo]
    have hsmart : info.provisionType = .smartconfig := htype.trans halive.smartconfig
    -- without a usable SSID the session is armed: else the state would have been dead before
    have harmed : info.wifiConfig.Unusable → info.sta = 1 := by
      intro hun
      rcases hread with ⟨hb, rfl⟩ | ⟨hb, hsta | hsta⟩
      · exact halive.sta.resolve_left fun h0 => halive.not_dead ⟨hrun, hsel, hun, h0, hb⟩
      · exact hsta.trans (halive.armed hb)
      · exact hsta
    rcases h with ⟨hus, h⟩ | ⟨hun, -, hsta, h⟩ | ⟨-, hap, -, -⟩ | ⟨hun, hsta, -⟩
    · have hnd : ¬ (appConfig a t).1.Dead := by
        rw [h]
        exact fun hdead => absurd hdead.2.1 (by simp)
      refine ⟨⟨fun _ evs _ hstarts => ?_, fun _ => hnd⟩, fun _ => ?_⟩
      · exact absurd (hstarts_iff.mp hstarts).1 hus
      · rw [h] at hnd ⊢
        refine ⟨hsmart, ?_, fun hb => absurd hb hblock, hnd⟩
        rcases hread with ⟨-, rfl⟩ | ⟨-, hsta | hsta⟩
        · exact halive.sta
        · exact hsta ▸ halive.sta
        · exact Or.inr hsta
    · -- the session decides
      have hstarts : a.StartsSession t := hstarts_iff.mpr ⟨hun, hsmart, hsta⟩
      rw [h]
      refine ⟨?_, fun hnd => ?_⟩
      · cases hsess : t.session with
        | none =>
          refine ⟨fun _ evs hevs => absurd hevs (by simp), fun _ hdead => ?_⟩
          exact absurd hdead.1 (by simp [App.runSession, App.halt])
        | some evs =>
          rw [dead_runSession_iff (a := { a with info := { info with sta := 0 }, provisioned := 1 })
            hrun (hstatus.trans hsel) hun rfl hblock evs, not_not]
          constructor
          · rintro hdel evs' hevs -
            exact (Option.some.inj hevs) ▸ hdel
          · exact fun hall => hall evs rfl hstarts
      · obtain ⟨htype', hsta', hblock'⟩ :=
          runSession_info { a with info := { info with sta := 0 }, provisioned := 1 } t.session
        exact ⟨htype'.trans hsmart, Or.inl hsta', fun hb => absurd (hblock'.symm.trans hb) hblock,
          hnd⟩
    · exact absurd (hsmart.symm.trans hap) (by decide)
    · exact absurd (harmed hun) hsta

/-- A step that keeps `info` and the station keeps everything that matters here. -/
theorem Alive.congr {a a' : App} (h : Alive a) (hinfo : a'.info = a.info)
    (hstation : a'.station = a.station) : Alive a' := by
  refine ⟨hinfo ▸ h.smartconfig, hinfo ▸ h.sta, hinfo ▸ h.armed, ?_⟩
  intro hdead
  unfold App.Dead at hdead
  rw [hinfo, hstation] at hdead
  exact h.not_dead hdead

theorem connectWifi_alive {a : App} (h : Alive a)
    (hsel : a.info.statusConnect ≠ .selecttionModeConnect) (t : Tick) : Alive (connectWifi a t).1 := by
  obtain ⟨station, heq | heq | heq⟩ := connectWifi_cases a t
  · rw [heq]
    exact ⟨h.smartconfig, h.sta, h.armed, fun hdead => hsel hdead.2.1⟩
  · rw [heq]
    exact ⟨h.smartconfig, h.sta, h.armed, fun hdead => absurd hdead.2.1 (by simp)⟩
  · -- a failed call arms the next session
    rw [heq]
    exact ⟨h.smartconfig, Or.inr rfl, fun _ => rfl, fun hdead => absurd hdead.2.2.2.1 (by simp)⟩

theorem step_alive {a : App} (halive : Alive a) (i : Input) :
    (¬ (a.step i).1.Dead
        ↔ ∀ t evs, i = .tick t → t.session = some evs → a.StartsSession t → DeliversUsable evs)
      ∧ (¬ (a.step i).1.Dead → Alive (a.step i).1) := by
  cases i with
  | dispatch =>
    have hstep : Alive (a.step .dispatch).1 := by
      cases hposted : a.posted with
      | nil => simpa [App.step, hposted] using halive
      | cons e posted =>
        have heq : (a.step .dispatch).1 = otadriveEventHandler { a with posted := posted } e := by
          simp [App.step, hposted]
        rw [heq]
        exact halive.congr (by cases e <;> rfl) (by cases e <;> rfl)
    exact ⟨⟨fun _ t evs ht => absurd ht (by simp), fun _ => hstep.not_dead⟩, fun _ => hstep⟩
  | driverPost e hne =>
    have hstep : Alive (a.step (.driverPost e hne)).1 := halive.congr rfl rfl
    exact ⟨⟨fun _ t evs ht => absurd ht (by simp), fun _ => hstep.not_dead⟩, fun _ => hstep⟩
  | tick t =>
    -- only a tick that reaches `app_config` can start a session
    have hidle : Alive (a.step (.tick t)).1 → ¬ a.StartsSession t →
        (¬ (a.step (.tick t)).1.Dead ↔ ∀ t' evs, Input.tick t = .tick t' → t'.session = some evs →
            a.StartsSession t' → DeliversUsable evs)
          ∧ (¬ (a.step (.tick t)).1.Dead → Alive (a.step (.tick t)).1) := by
      intro hstep hno
      refine ⟨⟨fun _ t' evs ht _ hstarts => ?_, fun _ => hstep.not_dead⟩, fun _ => hstep⟩
      obtain rfl := Input.tick.inj ht
      exact absurd hstarts hno
    by_cases hhalt : a.station.halted
    · refine hidle ?_ fun hstarts => absurd (hstarts.1.symm.trans hhalt) (by decide)
      simpa [App.step, handleConnectWifi, hhalt] using halive
    · rw [Bool.not_eq_true] at hhalt
      by_cases hsel : a.info.statusConnect = .selecttionModeConnect
      · have heq : a.step (.tick t) = appConfig a t := by
          simp [App.step, handleConnectWifi, hhalt, hsel]
        rw [heq]
        obtain ⟨hiff, hnext⟩ := appConfig_alive halive hhalt hsel t
        refine ⟨hiff.trans ⟨fun h t' evs ht => ?_, fun h evs => h t evs rfl⟩, hnext⟩
        obtain rfl := Input.tick.inj ht
        exact h evs
      · refine hidle ?_ fun hstarts => hsel hstarts.2.1
        cases hstatus : a.info.statusConnect with
        | selecttionModeConnect => exact absurd hstatus hsel
        | normal => simpa [App.step, handleConnectWifi, hstatus] using halive
        | eraseFlash => simpa [App.step, handleConnectWifi, hstatus] using halive
        | connectError => simpa [App.step, handleConnectWifi, hstatus] using halive
        | connectWifi =>
          have heq : a.step (.tick t) = connectWifi a t := by
            simp [App.step, handleConnectWifi, hhalt, hstatus]
          rw [heq]
          exact connectWifi_alive halive hsel t

/-- A run from `app_config_init` reaches no dead state if and only if every SmartConfig
session that ends has delivered an SSID and the last one is usable. -/
theorem not_dead_iff_run (is : List Input) :
    AllSteps App.step (fun a i => ¬ (a.step i).1.Dead) appConfigInit is
      ↔ AllSteps App.step
          (fun a i => ∀ t evs, i = .tick t → t.session = some evs → a.StartsSession t →
            DeliversUsable evs)
          appConfigInit is :=
  allSteps_iff_of_inv (I := Alive) (fun _ i halive hnd => (step_alive halive i).2 hnd)
    (fun _ i halive => (step_alive halive i).1) alive_init

/-- With nothing stored, an access point called "ssiderr" leaves the device dead. -/
theorem dead_after_ssiderr :
    ¬ AllSteps App.step (fun a i => ¬ (a.step i).1.Dead) appConfigInit
        [.tick
          { wifiInit := .ok WifiConfig.zero
            session := some
              [.staStart, .scanDone, .foundChannel,
                .gotSsidPswd
                  { ssid := ⟨sampleErr ++ List.replicate 25 0, rfl⟩, password := CArray.zero 64 },
                .sendAckDone] }] := by
  decide

end ControlFan.Wifi
