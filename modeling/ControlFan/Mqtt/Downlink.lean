import ControlFan.Lib.Machine
import ControlFan.Lib.CString
import ControlFan.Mqtt.Client

/-!
# Mqtt — the downlink that drives GPIO2 (`main/blynk.c`, `mqtt_app.c`, `output_iot.c`)

`mqtt_event_handler` hands every data event to `url_data`, which compares the topic with
`"downlink/ds/vw"` and sets GPIO2 to `atoi` of the payload pointer. Both look at more, or
less, than the event describes: the comparison stops after the *event's* topic length, and
`atoi` stops at the first byte that cannot continue the numeral, wherever the payload ends.

* **`urlData_passes_iff`** — the events that pass the comparison: those on the topic, and
  those that `Shadows` it (a proper prefix, the absent topic of a fragment, the topic
  followed by a NUL);
* **`drives_iff_onTopic_run`** — over whole runs, the pin is driven on the events of the
  topic and on no others exactly when no shadowing event carries data and no event of the
  topic comes without;
* **`level_of_payload_run`** — over whole runs, the level is `atoi` of the payload, and GPIO2
  ends at the last of them, when every numeral ends inside its payload.
-/

namespace ControlFan.Mqtt

open CString Machine

/-! ## The event handler -/

def downlinkTopic : List UInt8 :=
  ascii ['d', 'o', 'w', 'n', 'l', 'i', 'n', 'k', '/', 'd', 's', '/', 'v', 'w']

/-- What `url_data` does to GPIO2: nothing, one `output_io_set_level`, or a load through
the `NULL` pointer of an empty payload. -/
inductive Effect where
  | ignored
  | setLevel (level : Int)
  | fault
  deriving DecidableEq, Repr

def Effect.drives : Effect → Bool
  | .setLevel _ => true
  | _ => false

/-- `url_data`. A `NULL` topic comes with `length_topic = 0`, where `strncmp` looks at
nothing and returns `0`; `length` is only used for logging. -/
def urlData (lengthTopic : Nat) (topic : Option (List UInt8)) (_length : Int)
    (url : Option (List UInt8)) : Effect :=
  if strncmp (topic.getD []) downlinkTopic lengthTopic = 0 then
    match url with
    | none => .fault
    | some url => .setLevel (atoi url)
  else .ignored

def mqttEventHandler (ev : MqttEvent) : Effect := urlData ev.topicLen ev.topic ev.dataLen ev.data

/-- The device as far as downlinks go. A panicked device handles no further event. -/
structure Device where
  client : Client
  gpio2 : Bool := false
  panicked : Bool := false
  deriving DecidableEq, Repr

/-- One call of `url_data`: the event it was given and what it did. -/
structure Actuation where
  event : MqttEvent
  effect : Effect
  deriving DecidableEq, Repr

/-- `output_io_set_level(GPIO_NUM_2, level)`: any level but `0` is high. -/
def Device.outputIoSetLevel (d : Device) (level : Int) : Device := { d with gpio2 := level ≠ 0 }

def Device.apply (d : Device) : Effect → Device
  | .ignored => d
  | .setLevel level => d.outputIoSetLevel level
  | .fault => { d with panicked := true }

def Device.dispatch (d : Device) : List MqttEvent → Device × List Actuation
  | [] => (d, [])
  | ev :: evs =>
    if d.panicked then (d, [])
    else
      let (d', acts) := (d.apply (mqttEventHandler ev)).dispatch evs
      (d', ⟨ev, mqttEventHandler ev⟩ :: acts)

def Device.step (d : Device) (r : Round) : Device × List Actuation :=
  if d.panicked then (d, [])
  else
    let (c, evs) := espMqttTask d.client r
    ({ d with client := c }).dispatch evs

/-! ## Which events pass the topic comparison -/

def MqttEvent.OnTopic (ev : MqttEvent) : Prop :=
  ev.topicLen = 14 ∧ (ev.topic.getD []).take 14 = downlinkTopic

/-- Not the topic, but nothing the comparison can tell from it: a proper prefix (the empty
one included, as fragments have it), or the topic, a NUL and anything. -/
def MqttEvent.Shadows (ev : MqttEvent) : Prop :=
  (ev.topicLen < 14 ∧ (ev.topic.getD []).take ev.topicLen = downlinkTopic.take ev.topicLen)
    ∨ (14 < ev.topicLen ∧ cstr ((ev.topic.getD []).take ev.topicLen) = downlinkTopic)

instance (ev : MqttEvent) : Decidable ev.OnTopic := by unfold MqttEvent.OnTopic; infer_instance

instance (ev : MqttEvent) : Decidable ev.Shadows := by unfold MqttEvent.Shadows; infer_instance

def MqttEvent.payload (ev : MqttEvent) : List UInt8 := (ev.data.getD []).take ev.dataLen.toNat

theorem zero_notMem_downlinkTopic : (0 : UInt8) ∉ downlinkTopic := by decide

theorem not_onTopic_of_shadows {ev : MqttEvent} (h : ev.Shadows) : ¬ ev.OnTopic := by
  rintro ⟨hlen, -⟩
  rcases h with ⟨hlt, -⟩ | ⟨hlt, -⟩ <;> omega

/-- The comparison of `url_data` by the length the event brings: up to 14 it compares that
many bytes, above 14 it runs into the NUL behind the literal. -/
theorem strncmp_downlinkTopic_iff (m : List UInt8) (n : Nat) :
    strncmp m downlinkTopic n = 0 ↔
      (n ≤ 14 ∧ m.take n = downlinkTopic.take n)
        ∨ (14 < n ∧ cstr (m.take n) = downlinkTopic) := by
  have hlit : cstr (downlinkTopic.take n) = downlinkTopic.take n :=
    cstr_eq_self fun h => zero_notMem_downlinkTopic (List.mem_of_mem_take h)
  rw [strncmp_eq_zero_iff, hlit]
  by_cases hn : n ≤ 14
  · have hlen : (downlinkTopic.take n).length = n := by
      rw [List.length_take, show downlinkTopic.length = 14 from rfl]
      omega
    constructor
    · intro h
      -- the string is as long as the bytes looked at, so no NUL cut it short
      have hprefix : cstr (m.take n) <+: m.take n := List.takeWhile_prefix _
      have hle : (m.take n).length ≤ (cstr (m.take n)).length := by
        rw [h, hlen, List.length_take]
        omega
      have hfull : cstr (m.take n) = m.take n := hprefix.eq_of_length_le hle
      exact Or.inl ⟨hn, by rw [← hfull, h]⟩
    · rintro (⟨-, h⟩ | ⟨hgt, -⟩)
      · rw [h, hlit]
      · omega
  · have hlong : downlinkTopic.take n = downlinkTopic :=
      List.take_of_length_le (show downlinkTopic.length ≤ n from by
        rw [show downlinkTopic.length = 14 from rfl]
        omega)
    rw [hlong]
    constructor
    · exact fun h => Or.inr ⟨by omega, h⟩
    · rintro (⟨hle, -⟩ | ⟨-, h⟩)
      · omega
      · exact h

/-- **What passes the comparison**: the events on the topic and those that shadow it. -/
theorem urlData_passes_iff (ev : MqttEvent) :
    strncmp (ev.topic.getD []) downlinkTopic ev.topicLen = 0 ↔ ev.OnTopic ∨ ev.Shadows := by
  rw [strncmp_downlinkTopic_iff]
  constructor
  · rintro (⟨hle, h⟩ | hlong)
    · by_cases hlen : ev.topicLen = 14
      · rw [hlen] at h
        exact Or.inl ⟨hlen, h⟩
      · exact Or.inr (Or.inl ⟨by omega, h⟩)
    · exact Or.inr (Or.inr hlong)
  · rintro (⟨hlen, h⟩ | ⟨hlt, h⟩ | hlong)
    · refine Or.inl ⟨by omega, ?_⟩
      rw [hlen, h]
      rfl
    · exact Or.inl ⟨by omega, h⟩
    · exact Or.inr hlong

theorem drives_iff (ev : MqttEvent) :
    (mqttEventHandler ev).drives ↔ (ev.OnTopic ∨ ev.Shadows) ∧ ev.data ≠ none := by
  rw [← urlData_passes_iff]
  unfold mqttEventHandler urlData
  by_cases hpass : strncmp (ev.topic.getD []) downlinkTopic ev.topicLen = 0
  · cases hdata : ev.data with
    | none => simp [hpass, Effect.drives]
    | some url => simp [hpass, Effect.drives]
  · simp [hpass, Effect.drives]

/-! ## Runs -/

theorem effect_of_mem_dispatch {d : Device} {evs : List MqttEvent} {a : Actuation}
    (ha : a ∈ (d.dispatch evs).2) : a.effect = mqttEventHandler a.event := by
  induction evs generalizing d with
  | nil => simp [Device.dispatch] at ha
  | cons ev evs ih =>
    unfold Device.dispatch at ha
    by_cases hp : d.panicked
    · simp [hp] at ha
    · simp only [hp, if_false, List.mem_cons, Bool.false_eq_true] at ha
      rcases ha with rfl | ha
      · rfl
      · exact ih ha

theorem effect_of_mem_step {d : Device} {r : Round} {a : Actuation} (ha : a ∈ (d.step r).2) :
    a.effect = mqttEventHandler a.event := by
  unfold Device.step at ha
  by_cases hp : d.panicked
  · simp [hp] at ha
  · rw [if_neg hp] at ha
    exact effect_of_mem_dispatch ha

/-- Over every run, the pin is driven on exactly the events of the topic if and only if
every event of the topic has data and no event that only shadows the topic has. -/
theorem drives_iff_onTopic_run (d : Device) (rs : List Round) :
    AllSteps Device.step (fun d r => ∀ a ∈ (d.step r).2, a.effect.drives ↔ a.event.OnTopic) d rs
      ↔ AllSteps Device.step
          (fun d r => ∀ a ∈ (d.step r).2,
            (a.event.OnTopic → a.event.data ≠ none) ∧ (a.event.Shadows → a.event.data = none))
          d rs := by
  refine allSteps_iff_of_inv (I := fun _ => True) (fun _ _ _ _ => trivial) ?_ trivial
  intro d r _
  refine forall₂_congr fun a ha => ?_
  rw [effect_of_mem_step ha, drives_iff]
  constructor
  · intro h
    refine ⟨fun hon => (h.mpr hon).2, fun hsh => ?_⟩
    by_contra hdata
    exact not_onTopic_of_shadows hsh (h.mp ⟨Or.inr hsh, hdata⟩)
  · rintro ⟨hon, hsh⟩
    constructor
    · rintro ⟨h | h, hdata⟩
      · exact h
      · exact absurd (hsh h) hdata
    · exact fun h => ⟨Or.inl h, hon h⟩

def freshDevice : Device :=
  { client := { inBuffer := List.replicate 1024 0, inBufferLength := 1024, hfits := by rw [List.length_replicate] } }

/-- A PUBLISH on `downlink/ds/VP_ADC` with a payload of 1010 bytes, which does not fit the
buffer: its second data event, a fragment without a topic, sets the pin. -/
theorem fragment_drives :
    ¬ AllSteps Device.step
        (fun d r => ∀ a ∈ (d.step r).2, a.effect.drives ↔ a.event.OnTopic) freshDevice
        [.receive
          [.data [0x30], .data [0x86], .data [0x08], .data [0, 18],
            .data (ascii ['d', 'o', 'w', 'n', 'l', 'i', 'n', 'k', '/', 'd', 's', '/',
              'V', 'P', '_', 'A', 'D', 'C'] ++ List.replicate 1001 49),
            .data (List.replicate 9 49)]
          true] := by
  decide +kernel

/-! ## The level -/

/-- The numeral at the payload pointer ends inside the payload, which is there at all. -/
def MqttEvent.NumeralInPayload (ev : MqttEvent) : Prop :=
  ev.data ≠ none ∧ numeralLen (ev.data.getD []) ≤ ev.dataLen.toNat

instance (ev : MqttEvent) : Decidable ev.NumeralInPayload := by
  unfold MqttEvent.NumeralInPayload
  infer_instance

/-- The level the pin should be at after some events: high iff the last payload on the
topic spells a non-zero integer, `level` if there was none. -/
def lastLevel (level : Bool) (evs : List MqttEvent) : Bool :=
  match (evs.filter (·.OnTopic)).getLast? with
  | none => level
  | some ev => spelled ev.payload ≠ 0

theorem lastLevel_cons (level : Bool) (ev : MqttEvent) (evs : List MqttEvent) :
    lastLevel level (ev :: evs)
      = lastLevel (if ev.OnTopic then decide (spelled ev.payload ≠ 0) else level) evs := by
  unfold lastLevel
  by_cases hon : ev.OnTopic
  · rw [List.filter_cons_of_pos (by simpa using hon), List.getLast?_cons]
    cases hrest : (evs.filter (·.OnTopic)).getLast? with
    | none => simp [hon]
    | some last => simp
  · rw [List.filter_cons_of_neg (by simpa using hon)]
    simp [hon]

theorem lastLevel_append (level : Bool) (evs evs' : List MqttEvent) :
    lastLevel level (evs ++ evs') = lastLevel (lastLevel level evs) evs' := by
  induction evs generalizing level with
  | nil => rfl
  | cons ev evs ih => rw [List.cons_append, lastLevel_cons, ih, lastLevel_cons]

/-- On an event of the topic whose numeral ends inside its payload the handler sets the
level to `atoi` of the payload, whatever the buffer holds behind it. -/
theorem mqttEventHandler_onTopic {ev : MqttEvent} (hon : ev.OnTopic)
    (hnum : ev.NumeralInPayload) : mqttEventHandler ev = .setLevel (atoi ev.payload) := by
  obtain ⟨hdata, hlen⟩ := hnum
  obtain ⟨url, hurl⟩ := Option.ne_none_iff_exists'.mp hdata
  rw [hurl] at hlen
  have hpass := (urlData_passes_iff ev).mpr (Or.inl hon)
  have hatoi : atoi (url.take ev.dataLen.toNat) = atoi url := atoi_take hlen
  simp only [mqttEventHandler, urlData, hpass, if_true, hurl, MqttEvent.payload,
    Option.getD_some, hatoi]

theorem gpio2_apply_of_not_onTopic {ev : MqttEvent} (hon : ¬ ev.OnTopic)
    (hsh : ev.Shadows → ev.data = none) (d : Device) :
    (d.apply (mqttEventHandler ev)).gpio2 = d.gpio2 := by
  have hquiet : ¬ (mqttEventHandler ev).drives := by
    rw [drives_iff]
    rintro ⟨h | h, hdata⟩
    · exact hon h
    · exact hdata (hsh h)
  cases heff : mqttEventHandler ev with
  | ignored => rfl
  | fault => rfl
  | setLevel level => simp [heff, Effect.drives] at hquiet

/-- The pin after the events of one message. Induction on the events: each moves the pin
the way `lastLevel_cons` moves the expected level. -/
theorem gpio2_dispatch {d : Device} {evs : List MqttEvent}
    (h : ∀ a ∈ (d.dispatch evs).2, (a.event.OnTopic → a.event.NumeralInPayload)
      ∧ (a.event.Shadows → a.event.data = none)) :
    (d.dispatch evs).1.gpio2 = lastLevel d.gpio2 ((d.dispatch evs).2.map (·.event)) := by
  induction evs generalizing d with
  | nil => rfl
  | cons ev evs ih =>
    by_cases hp : d.panicked
    · simp [Device.dispatch, hp, lastLevel]
    · have hdispatch : d.dispatch (ev :: evs)
          = (((d.apply (mqttEventHandler ev)).dispatch evs).1,
              ⟨ev, mqttEventHandler ev⟩ :: ((d.apply (mqttEventHandler ev)).dispatch evs).2) := by
        rw [Device.dispatch, if_neg hp]
      rw [hdispatch] at h ⊢
      rw [List.forall_mem_cons] at h
      obtain ⟨⟨hnum, hsh⟩, htail⟩ := h
      rw [List.map_cons, lastLevel_cons, ih htail]
      congr 1
      by_cases hon : ev.OnTopic
      · rw [if_pos hon, mqttEventHandler_onTopic hon (hnum hon)]
        simp [Device.apply, Device.outputIoSetLevel, atoi_eq_zero_iff]
      · rw [if_neg hon, gpio2_apply_of_not_onTopic hon hsh]

theorem gpio2_step {d : Device} {r : Round}
    (h : ∀ a ∈ (d.step r).2, (a.event.OnTopic → a.event.NumeralInPayload)
      ∧ (a.event.Shadows → a.event.data = none)) :
    (d.step r).1.gpio2 = lastLevel d.gpio2 ((d.step r).2.map (·.event)) := by
  unfold Device.step at h ⊢
  by_cases hp : d.panicked
  · simp [hp, lastLevel]
  · rw [if_neg hp] at h ⊢
    exact gpio2_dispatch h

theorem gpio2_run {d : Device} {rs : List Round}
    (h : AllSteps Device.step
      (fun d r => ∀ a ∈ (d.step r).2, (a.event.OnTopic → a.event.NumeralInPayload)
        ∧ (a.event.Shadows → a.event.data = none)) d rs) :
    (run Device.step d rs).1.gpio2
      = lastLevel d.gpio2 ((run Device.step d rs).2.map (·.event)) := by
  induction rs generalizing d with
  | nil => rfl
  | cons r rs ih =>
    obtain ⟨hhead, htail⟩ := h
    -- the level after the head is where the tail starts
    rw [run_cons, List.map_append, lastLevel_append, ← gpio2_step hhead]
    exact ih htail

/-- The level set on each event of the topic is `atoi` of its payload when every numeral
ends inside its payload; when moreover no shadowing event carries data, GPIO2 is high at
the end iff the last payload on the topic spells a non-zero integer. -/
theorem level_of_payload_run (d : Device) (rs : List Round)
    (hnum : AllSteps Device.step
      (fun d r => ∀ a ∈ (d.step r).2, a.event.OnTopic → a.event.NumeralInPayload) d rs) :
    (∀ a ∈ (run Device.step d rs).2, a.event.OnTopic → a.effect = .setLevel (atoi a.event.payload))
      ∧ (AllSteps Device.step
            (fun d r => ∀ a ∈ (d.step r).2, a.event.Shadows → a.event.data = none) d rs →
          (run Device.step d rs).1.gpio2
            = lastLevel d.gpio2 ((run Device.step d rs).2.map (·.event))) := by
  constructor
  · refine mem_outputs_of_allSteps (P := fun a : Actuation =>
      a.event.OnTopic → a.effect = .setLevel (atoi a.event.payload)) ?_
    refine AllSteps.mono ?_ hnum
    intro d r h a ha hon
    rw [effect_of_mem_step ha]
    exact mqttEventHandler_onTopic hon (h a ha hon)
  · intro hsh
    refine gpio2_run (AllSteps.mono ?_ (hnum.and hsh))
    intro d r h a ha
    exact ⟨h.1 a ha, h.2 a ha⟩

/-- The bytes of a PUBLISH on the topic at QoS 0, as one read delivers them after the
header byte and the length byte. -/
def downlinkRound (payload : List UInt8) : Round :=
  .receive
    [.data [0x30], .data [UInt8.ofNat (16 + payload.length)],
      .data ([0, 14] ++ downlinkTopic ++ payload)]
    true

/-- `"1"`, then `"0 "`: the space ends the second numeral inside its payload. -/
theorem level_of_payload_run_one_zero :
    (∀ a ∈ (run Device.step freshDevice [downlinkRound [49], downlinkRound [48, 32]]).2,
        a.event.OnTopic → a.effect = .setLevel (atoi a.event.payload))
      ∧ (run Device.step freshDevice [downlinkRound [49], downlinkRound [48, 32]]).1.gpio2
          = false := by
  obtain ⟨hlevel, hgpio⟩ :=
    level_of_payload_run freshDevice [downlinkRound [49], downlinkRound [48, 32]]
      (by decide +kernel)
  refine ⟨hlevel, ?_⟩
  rw [hgpio (by decide +kernel)]
  decide +kernel

/-- `"11"`, then `"0"`: the second payload is followed by the last digit of the first, and
GPIO2 is set to level `1` and stays high. -/
theorem stale_digit_sets_level :
    ¬ (∀ a ∈ (run Device.step freshDevice
            [downlinkRound [49, 49], downlinkRound [48]]).2,
          a.event.OnTopic → a.effect = .setLevel (atoi a.event.payload))
      ∧ (run Device.step freshDevice [downlinkRound [49, 49], downlinkRound [48]]).1.gpio2
          = true := by
  decide +kernel

end ControlFan.Mqtt
