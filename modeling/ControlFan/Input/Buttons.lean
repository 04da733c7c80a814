import Mathlib.Data.Finset.Card
import Mathlib.Data.List.Dedup
import Mathlib.Logic.Function.Basic
import ControlFan.Lib.Machine

/-!
# Input — buttons on several pins (`input_iot/input_iot.c`)

One interrupt handler serves every pin that `input_io_creat` has registered. It keeps the
time of a press, its length and the handle of the long-press timer in statics, and every
registration makes a new timer and forgets the handle of the one before.

* **`Device.step`** — pins, tick count and component under presses, releases and ticks. The
  timer service takes a command at the tick it is given, and both callbacks are set;
* **`Sound`** — the invariant of a device whose registered pins are pressed one at a time;
* **`independent_run`** — on such a device every release reports the length of its own press
  and the long-press callback is made exactly for the presses of 5000 ms.
-/

namespace ControlFan.Input

open Machine

/-! ## The component -/

/-- `interrupt_type_edge_t`. -/
inductive InterruptTypeEdge where
  | hiToLo
  | loToHi
  | anyEdle
  deriving DecidableEq, Repr

def InterruptTypeEdge.takes : InterruptTypeEdge → Bool → Bool
  | .hiToLo, level => !level
  | .loToHi, level => level
  | .anyEdle, _ => true

/-- The statics of `input_iot.c`, the interrupt handlers it has added, and the one-shot
timers it has made: the ticks until each expires, `none` when it does not run. -/
structure InputIot where
  handlers : Nat → Option InterruptTypeEdge := fun _ => none
  timers : List (Option Nat) := []
  xTimers : Option Nat := none
  x : Int := 0
  start : UInt32 := 0
  stop : UInt32 := 0
  buttonPressDuration : UInt32 := 0

inductive Output where
  | inputCallback (gpioNum : Nat) (tickTime : UInt32)
  | inputCallbackStatus (status : Int)
  deriving DecidableEq, Repr

/-- `pdMS_TO_TICKS` with `CONFIG_FREERTOS_HZ=100`. -/
def pdMsToTicks (ms : Nat) : Nat := ms * 100 / 1000

def InputIot.setTimer (s : InputIot) (t : Option Nat) : InputIot :=
  match s.xTimers with
  -- no pin is registered, so nothing calls this
  | none => s
  | some h => { s with timers := s.timers.set h t }

/-- `xTimerStart`, which also starts a running timer again. -/
def InputIot.xTimerStart (s : InputIot) : InputIot := s.setTimer (some (pdMsToTicks 5000))

def InputIot.xTimerStop (s : InputIot) : InputIot := s.setTimer none

def gpioInputHandler (s : InputIot) (level : Bool) (now : UInt32) (gpioNum : Nat) :
    InputIot × List Output :=
  let s :=
    if level then { s.xTimerStart with start := now }
    else { s.xTimerStop with x := 0, stop := now, buttonPressDuration := now - s.start }
  (s, [.inputCallback gpioNum s.buttonPressDuration])

/-- `input_io_creat`; the timers made for other pins go on without a handle. -/
def inputIoCreat (s : InputIot) (gpioNum : Nat) (type : InterruptTypeEdge) : InputIot :=
  { s with
    handlers := Function.update s.handlers gpioNum (some type)
    timers := s.timers ++ [none]
    xTimers := some s.timers.length }

/-- `vTimerCallback`. The ID of every timer is 0. -/
def vTimerCallback (s : InputIot) : InputIot × List Output :=
  ({ s with x := 0 }, [.inputCallbackStatus 1])

def countDown : Option Nat → Option Nat
  | some (n + 2) => some (n + 1)
  | _ => none

/-- One tick of the timer service: every timer that expires makes its callback. -/
def InputIot.timerTick (s : InputIot) : InputIot × List Output :=
  run (fun s (_ : Option Nat) => vTimerCallback s) { s with timers := s.timers.map countDown }
    (s.timers.filter (· = some 1))

/-! ## The device -/

/-- The device: for how many ticks each pin has been high, `none` while it is low, and the
tick count. The handler reads only the level. -/
structure Device where
  pins : Nat → Option Nat := fun _ => none
  now : UInt32 := 0
  iot : InputIot := {}

inductive Event where
  | press (gpioNum : Nat)
  | release (gpioNum : Nat)
  | tick
  deriving DecidableEq, Repr

/-- The interrupt behind an edge of a pin. -/
def Device.interrupt (d : Device) (gpioNum : Nat) : Device × List Output :=
  match d.iot.handlers gpioNum with
  | none => (d, [])
  | some type =>
    if type.takes (d.pins gpioNum).isSome then
      let (iot, outs) := gpioInputHandler d.iot (d.pins gpioNum).isSome d.now gpioNum
      ({ d with iot := iot }, outs)
    else (d, [])

def Device.setPin (d : Device) (gpioNum : Nat) (held : Option Nat) : Device :=
  { d with pins := Function.update d.pins gpioNum held }

/-- A pin alternates: an edge to the level that it has is none. -/
def Device.step (d : Device) : Event → Device × List Output
  | .press g => if (d.pins g).isSome then (d, []) else (d.setPin g (some 0)).interrupt g
  | .release g => if (d.pins g).isNone then (d, []) else (d.setPin g none).interrupt g
  | .tick =>
    let (iot, outs) := d.iot.timerTick
    ({ pins := fun g => (d.pins g).map (· + 1), now := d.now + 1, iot := iot }, outs)

/-- A device with these pins registered for both edges. -/
def registered (gs : List Nat) : Device :=
  { iot := gs.foldl (inputIoCreat · · .anyEdle) {} }

/-! ## Independent buttons -/

/-- The registered pins that have been high for 5000 ms with the next tick. -/
def longPresses (gs : List Nat) (d : Device) : Nat :=
  (gs.toFinset.filter fun g => d.pins g = some (pdMsToTicks 5000 - 1)).card

/-- What an event should show: a release the length of its own press, a tick one status
callback for every press that completes its 5000 ms, and no other event a status callback. -/
def Independent (gs : List Nat) (d : Device) (e : Event) : Prop :=
  match e with
  | .press _ => ∀ status, .inputCallbackStatus status ∉ (d.step e).2
  | .release g =>
    g ∈ gs → ∀ n, d.pins g = some n → (d.step e).2 = [.inputCallback g (UInt32.ofNat n)]
  | .tick => (d.step e).2 = List.replicate (longPresses gs d) (.inputCallbackStatus 1)

/-- No registered pin is pressed while another one is down. -/
def Apart (gs : List Nat) (d : Device) : Event → Prop
  | .press g => g ∈ gs → ∀ g' ∈ gs, g' ≠ g → d.pins g' = none
  | _ => True

instance (gs : List Nat) (d : Device) : (e : Event) → Decidable (Apart gs d e)
  | .press g => inferInstanceAs (Decidable (g ∈ gs → ∀ g' ∈ gs, g' ≠ g → d.pins g' = none))
  | .release _ => inferInstanceAs (Decidable True)
  | .tick => inferInstanceAs (Decidable True)

/-! ## The timer in use -/

/-- The timer behind the handle stands at `t`, and no other one runs. -/
def InputIot.TimerAt (s : InputIot) (t : Option Nat) : Prop :=
  (s.timers = [] ∧ s.xTimers = none ∧ t = none)
    ∨ ∃ k, s.timers = List.replicate k none ++ [t] ∧ s.xTimers = some k

/-- A command to the timer in use. -/
theorem setTimer_spec {s : InputIot} {t : Option Nat} (h : s.TimerAt t) (hmade : s.xTimers ≠ none)
    (t' : Option Nat) :
    (s.setTimer t').TimerAt t' ∧ (s.setTimer t').handlers = s.handlers
      ∧ (s.setTimer t').xTimers = s.xTimers
      ∧ (s.setTimer t').buttonPressDuration = s.buttonPressDuration := by
  rcases h with ⟨-, hnone, -⟩ | ⟨k, htimers, hhandle⟩
  · exact absurd hnone hmade
  · unfold InputIot.setTimer InputIot.TimerAt
    simp only [hhandle, htimers]
    refine ⟨Or.inr ⟨k, ?_, rfl⟩, trivial, trivial, trivial⟩
    rw [List.set_append_right _ _ (by simp)]
    simp

/-- One tick of the timer in use. -/
theorem timerTick_spec {s : InputIot} {t : Option Nat} (h : s.TimerAt t) :
    s.timerTick.2 = (if t = some 1 then [.inputCallbackStatus 1] else [])
      ∧ s.timerTick.1.TimerAt (countDown t) ∧ s.timerTick.1.handlers = s.handlers
      ∧ s.timerTick.1.xTimers = s.xTimers ∧ s.timerTick.1.start = s.start := by
  have hnone : ∀ k, (List.replicate k (none : Option Nat)).filter (· = some 1) = [] := by
    intro k
    simp
  unfold InputIot.timerTick InputIot.TimerAt
  rcases h with ⟨htimers, hhandle, rfl⟩ | ⟨k, htimers, hhandle⟩
  · rw [htimers]
    exact ⟨rfl, Or.inl ⟨rfl, hhandle, rfl⟩, rfl, rfl, rfl⟩
  · rw [htimers, List.filter_append, hnone, List.map_append, List.map_replicate]
    rcases eq_or_ne t (some 1) with rfl | hne
    · exact ⟨rfl, Or.inr ⟨k, rfl, hhandle⟩, rfl, rfl, rfl⟩
    · have hidle : [t].filter (· = some 1) = [] := by simp [hne]
      rw [hidle, if_neg hne]
      exact ⟨rfl, Or.inr ⟨k, rfl, hhandle⟩, rfl, rfl, rfl⟩

/-! ## One button at a time -/

/-- Where the timer stands `n` ticks behind a press. -/
def remaining (n : Nat) : Option Nat := if n < 500 then some (500 - n) else none

theorem countDown_remaining (n : Nat) : countDown (remaining n) = remaining (n + 1) := by
  unfold remaining
  rcases Nat.lt_or_ge n 499 with hlt | hge
  · obtain ⟨m, hm⟩ : ∃ m, 500 - n = m + 2 := ⟨498 - n, by omega⟩
    rw [if_pos (by omega), if_pos (by omega), hm, countDown]
    congr 1
    omega
  · rw [if_neg (show ¬ n + 1 < 500 by omega)]
    rcases Nat.eq_or_lt_of_le hge with rfl | hlt
    · rfl
    · rw [if_neg (by omega)]
      rfl

theorem remaining_eq_one_iff (n : Nat) : remaining n = some 1 ↔ n = 499 := by
  unfold remaining
  split_ifs with h
  · rw [Option.some.injEq]
    omega
  · simp only [false_iff]
    omega

/-- No registered pin is down, and the timer does not run. -/
structure AllUp (gs : List Nat) (d : Device) : Prop where
  up : ∀ g ∈ gs, d.pins g = none
  timer : d.iot.TimerAt none

/-- The pin `g` alone is down, for `n` ticks, and the statics are those of its press. -/
structure OneDown (gs : List Nat) (d : Device) (g n : Nat) : Prop where
  mem : g ∈ gs
  down : d.pins g = some n
  alone : ∀ g' ∈ gs, g' ≠ g → d.pins g' = none
  timer : d.iot.TimerAt (remaining n)
  start : d.iot.start = d.now - UInt32.ofNat n

/-- The invariant of a device whose registered pins are pressed one at a time. -/
structure Sound (gs : List Nat) (d : Device) : Prop where
  handlers : ∀ g, d.iot.handlers g = if g ∈ gs then some .anyEdle else none
  made : gs ≠ [] → d.iot.xTimers ≠ none
  buttons : AllUp gs d ∨ ∃ g n, OneDown gs d g n

theorem Sound.congr {gs : List Nat} {d d' : Device} (h : Sound gs d)
    (hhandlers : d'.iot.handlers = d.iot.handlers) (hhandle : d'.iot.xTimers = d.iot.xTimers)
    (hbuttons : AllUp gs d' ∨ ∃ g n, OneDown gs d' g n) : Sound gs d' where
  handlers g := (congrFun hhandlers g).trans (h.handlers g)
  made hne := hhandle.trans_ne (h.made hne)
  buttons := hbuttons

theorem interrupt_unregistered {gs : List Nat} {d : Device} (h : Sound gs d) {g : Nat}
    (hg : g ∉ gs) (held : Option Nat) : (d.setPin g held).interrupt g = (d.setPin g held, []) := by
  have hnone : (d.setPin g held).iot.handlers g = none := (h.handlers g).trans (if_neg hg)
  rw [Device.interrupt, hnone]

/-- The pins that nobody registered change nothing. -/
theorem sound_setPin {gs : List Nat} {d : Device} (h : Sound gs d) {g : Nat} (hg : g ∉ gs)
    (held : Option Nat) : Sound gs (d.setPin g held) := by
  have hpins : ∀ g' ∈ gs, (d.setPin g held).pins g' = d.pins g' := by
    intro g' hg'
    have hne : g' ≠ g := fun heq => hg (heq ▸ hg')
    exact Function.update_of_ne hne _ _
  refine ⟨h.handlers, h.made, ?_⟩
  rcases h.buttons with hup | ⟨g₁, n, hdown⟩
  · exact Or.inl ⟨fun g' hg' => (hpins g' hg').trans (hup.up g' hg'), hup.timer⟩
  · refine Or.inr ⟨g₁, n, hdown.mem, (hpins g₁ hdown.mem).trans hdown.down, ?_, hdown.timer,
      hdown.start⟩
    exact fun g' hg' hne => (hpins g' hg').trans (hdown.alone g' hg' hne)

theorem interrupt_registered {gs : List Nat} {d : Device} (h : Sound gs d) {g : Nat} (hg : g ∈ gs)
    (held : Option Nat) :
    (d.setPin g held).interrupt g
      = ({ d.setPin g held with iot := (gpioInputHandler d.iot held.isSome d.now g).1 },
        (gpioInputHandler d.iot held.isSome d.now g).2) := by
  have hany : (d.setPin g held).iot.handlers g = some .anyEdle :=
    (h.handlers g).trans (if_pos hg)
  have hpin : (d.setPin g held).pins g = held := Function.update_self _ _ _
  rw [Device.interrupt, hany, hpin]
  rfl

/-- A registered pin goes high while the others are low: the timer starts, and `start` is
the tick of this press. -/
theorem press_spec {gs : List Nat} {d : Device} (h : Sound gs d) {g : Nat} (hg : g ∈ gs)
    (hup : d.pins g = none) (hapart : ∀ g' ∈ gs, g' ≠ g → d.pins g' = none) :
    Sound gs (d.step (.press g)).1
      ∧ (d.step (.press g)).2 = [.inputCallback g d.iot.buttonPressDuration] := by
  have htimer : d.iot.TimerAt none := by
    rcases h.buttons with hall | ⟨g₁, n, hdown⟩
    · exact hall.timer
    · -- the pin that is down is neither this one nor another
      exfalso
      rcases eq_or_ne g₁ g with rfl | hne
      · exact absurd (hdown.down.symm.trans hup) (by simp)
      · exact absurd (hdown.down.symm.trans (hapart g₁ hdown.mem hne)) (by simp)
  have hmade := h.made (List.ne_nil_of_mem hg)
  obtain ⟨htimer', hhandlers, hhandle, hduration⟩ :=
    setTimer_spec htimer hmade (some (pdMsToTicks 5000))
  have hstep : d.step (.press g) = (d.setPin g (some 0)).interrupt g := by simp [Device.step, hup]
  rw [hstep, interrupt_registered h hg]
  refine ⟨h.congr hhandlers hhandle
    (Or.inr ⟨g, 0, hg, Function.update_self _ _ _, ?_, htimer', ?_⟩), ?_⟩
  · exact fun g' hg' hne => (Function.update_of_ne hne _ _).trans (hapart g' hg' hne)
  · exact (UInt32.sub_zero d.now).symm
  · exact congrArg (fun t => [Output.inputCallback g t]) hduration

/-- A registered pin goes low: `start` is the tick of its own press, and the timer stops. -/
theorem release_spec {gs : List Nat} {d : Device} (h : Sound gs d) {g n : Nat} (hg : g ∈ gs)
    (hdown : d.pins g = some n) :
    Sound gs (d.step (.release g)).1
      ∧ (d.step (.release g)).2 = [.inputCallback g (UInt32.ofNat n)] := by
  have hone : OneDown gs d g n := by
    rcases h.buttons with hall | ⟨g₁, n₁, hone⟩
    · exact absurd (hdown.symm.trans (hall.up g hg)) (by simp)
    · rcases eq_or_ne g g₁ with rfl | hne
      · obtain rfl : n = n₁ := Option.some.inj (hdown.symm.trans hone.down)
        exact hone
      · exact absurd (hdown.symm.trans (hone.alone g hg hne)) (by simp)
  have hmade := h.made (List.ne_nil_of_mem hg)
  obtain ⟨htimer', hhandlers, hhandle, -⟩ := setTimer_spec hone.timer hmade none
  have hstep : d.step (.release g) = (d.setPin g none).interrupt g := by simp [Device.step, hdown]
  rw [hstep, interrupt_registered h hg]
  refine ⟨h.congr hhandlers hhandle (Or.inl ⟨?_, htimer'⟩), ?_⟩
  · intro g' hg'
    rcases eq_or_ne g' g with rfl | hne
    · exact Function.update_self _ _ _
    · exact (Function.update_of_ne hne _ _).trans (hone.alone g' hg' hne)
  · show [Output.inputCallback g (d.now - d.iot.start)] = _
    rw [hone.start]
    congr 2
    grind

theorem longPresses_allUp {gs : List Nat} {d : Device} (h : AllUp gs d) : longPresses gs d = 0 := by
  rw [longPresses, Finset.card_eq_zero, Finset.filter_eq_empty_iff]
  intro g hg
  rw [h.up g (List.mem_toFinset.mp hg)]
  simp

theorem longPresses_oneDown {gs : List Nat} {d : Device} {g n : Nat} (h : OneDown gs d g n) :
    longPresses gs d = if n = 499 then 1 else 0 := by
  -- the other pins are low
  have honly : ∀ g' ∈ gs, d.pins g' = some (pdMsToTicks 5000 - 1) ↔ g' = g ∧ n = 499 := by
    intro g' hg'
    rcases eq_or_ne g' g with rfl | hne
    · rw [h.down, Option.some.injEq]
      exact ⟨fun hn => ⟨rfl, hn⟩, fun hn => hn.2⟩
    · rw [h.alone g' hg' hne]
      simp [hne]
  unfold longPresses
  split_ifs with hn
  · rw [Finset.card_eq_one]
    refine ⟨g, ?_⟩
    ext g'
    rw [Finset.mem_filter, List.mem_toFinset, Finset.mem_singleton]
    constructor
    · exact fun ⟨hmem, hlong⟩ => ((honly g' hmem).mp hlong).1
    · intro heq
      rw [heq]
      exact ⟨h.mem, (honly g h.mem).mpr ⟨rfl, hn⟩⟩
  · rw [Finset.card_eq_zero, Finset.filter_eq_empty_iff]
    exact fun g' hg' hlong => hn ((honly g' (List.mem_toFinset.mp hg')).mp hlong).2

/-- A tick: the timer in use expires with the 500th tick of the press that started it. -/
theorem tick_spec {gs : List Nat} {d : Device} (h : Sound gs d) :
    Sound gs (d.step .tick).1
      ∧ (d.step .tick).2 = List.replicate (longPresses gs d) (.inputCallbackStatus 1) := by
  rcases h.buttons with hall | ⟨g, n, hone⟩
  · obtain ⟨houts, htimer, hhandlers, hhandle, -⟩ := timerTick_spec hall.timer
    refine ⟨h.congr hhandlers hhandle (Or.inl ⟨?_, htimer⟩), ?_⟩
    · exact fun g hg => congrArg (Option.map (· + 1)) (hall.up g hg)
    · rw [longPresses_allUp hall]
      exact houts
  · obtain ⟨houts, htimer, hhandlers, hhandle, hstart⟩ := timerTick_spec hone.timer
    rw [countDown_remaining] at htimer
    refine ⟨h.congr hhandlers hhandle (Or.inr ⟨g, n + 1, hone.mem, ?_, ?_, htimer, ?_⟩), ?_⟩
    · exact congrArg (Option.map (· + 1)) hone.down
    · exact fun g' hg' hne => congrArg (Option.map (· + 1)) (hone.alone g' hg' hne)
    · show d.iot.timerTick.1.start = d.now + 1 - UInt32.ofNat (n + 1)
      rw [hstart, hone.start, UInt32.ofNat_add]
      grind
    · rw [longPresses_oneDown hone]
      refine houts.trans ?_
      simp only [remaining_eq_one_iff]
      split_ifs
      · rfl
      · rfl

/-! ## Whole runs -/

/-- Every registration makes a timer that does not run, and takes the handle to it. -/
theorem timerAt_creat {s : InputIot} (h : s.TimerAt none) (g : Nat) (type : InterruptTypeEdge) :
    (inputIoCreat s g type).TimerAt none := by
  right
  refine ⟨s.timers.length, ?_, rfl⟩
  rcases h with ⟨htimers, -, -⟩ | ⟨k, htimers, -⟩
  · show s.timers ++ [none] = _
    rw [htimers]
    rfl
  · show s.timers ++ [none] = _
    rw [htimers, ← List.replicate_succ', List.length_replicate]

theorem sound_registered (gs : List Nat) : Sound gs (registered gs) := by
  induction gs using List.reverseRecOn with
  | nil =>
    exact ⟨fun _ => rfl, fun h => absurd rfl h, Or.inl ⟨fun _ _ => rfl, Or.inl ⟨rfl, rfl, rfl⟩⟩⟩
  | append_singleton gs g ih =>
    have hcreat : (registered (gs ++ [g])).iot = inputIoCreat (registered gs).iot g .anyEdle := by
      simp [registered]
    have htimer : (registered gs).iot.TimerAt none := by
      rcases ih.buttons with hall | ⟨g₁, n, hone⟩
      · exact hall.timer
      · exact absurd hone.down (by simp [registered])
    refine ⟨?_, ?_, Or.inl ⟨fun _ _ => rfl, ?_⟩⟩
    · intro g'
      rw [hcreat]
      show Function.update (registered gs).iot.handlers g (some .anyEdle) g' = _
      rcases eq_or_ne g' g with rfl | hne
      · simp
      · rw [Function.update_of_ne hne, ih.handlers g']
        simp [hne]
    · rw [hcreat]
      exact fun _ => Option.some_ne_none _
    · rw [hcreat]
      exact timerAt_creat htimer g .anyEdle

/-- An edge that calls the handler, or one that shows nothing: the pin has the level already,
or nobody registered it. -/
theorem press_cases {gs : List Nat} {d : Device} (h : Sound gs d) (g : Nat) :
    (g ∈ gs ∧ d.pins g = none) ∨ ∃ d', d.step (.press g) = (d', []) ∧ Sound gs d' := by
  cases hpin : d.pins g with
  | some n => exact Or.inr ⟨d, by simp [Device.step, hpin], h⟩
  | none =>
    rcases Decidable.em (g ∈ gs) with hg | hg
    · exact Or.inl ⟨hg, rfl⟩
    · refine Or.inr ⟨_, ?_, sound_setPin h hg (some 0)⟩
      rw [← interrupt_unregistered h hg]
      simp [Device.step, hpin]

theorem release_cases {gs : List Nat} {d : Device} (h : Sound gs d) (g : Nat) :
    (g ∈ gs ∧ ∃ n, d.pins g = some n)
      ∨ (¬ (g ∈ gs ∧ ∃ n, d.pins g = some n))
        ∧ ∃ d', d.step (.release g) = (d', []) ∧ Sound gs d' := by
  cases hpin : d.pins g with
  | none => exact Or.inr ⟨by simp, d, by simp [Device.step, hpin], h⟩
  | some n =>
    rcases Decidable.em (g ∈ gs) with hg | hg
    · exact Or.inl ⟨hg, n, rfl⟩
    · refine Or.inr ⟨by simp [hg], _, ?_, sound_setPin h hg none⟩
      rw [← interrupt_unregistered h hg]
      simp [Device.step, hpin]

theorem step_spec {gs : List Nat} {d : Device} {e : Event} (h : Sound gs d)
    (hapart : Apart gs d e) : Sound gs (d.step e).1 ∧ Independent gs d e := by
  unfold Independent
  cases e with
  | press g =>
    rcases press_cases h g with ⟨hg, hpin⟩ | ⟨d', hstep, hsound⟩
    · obtain ⟨hsound, houts⟩ := press_spec h hg hpin (hapart hg)
      simp only [houts]
      exact ⟨hsound, by simp⟩
    · simp only [hstep]
      exact ⟨hsound, by simp⟩
  | release g =>
    rcases release_cases h g with ⟨hg, n, hpin⟩ | ⟨hnone, d', hstep, hsound⟩
    · obtain ⟨hsound, houts⟩ := release_spec h hg hpin
      refine ⟨hsound, fun _ n' hdown => ?_⟩
      obtain rfl : n = n' := Option.some.inj (hpin.symm.trans hdown)
      exact houts
    · simp only [hstep]
      exact ⟨hsound, fun hg n hpin => absurd ⟨hg, n, hpin⟩ hnone⟩
  | tick => exact tick_spec h

/-- **The buttons are independent** in every run in which no registered pin is pressed while
another one is down: a release reports the length of its own press, and the status callback
is made with the tick that completes the 5000 ms of a press and at no other time. -/
theorem independent_run (gs : List Nat) (es : List Event)
    (h : AllSteps Device.step (Apart gs) (registered gs) es) :
    AllSteps Device.step (Independent gs) (registered gs) es :=
  AllSteps.of_inv (I := Sound gs) (fun _ _ hs hapart => (step_spec hs hapart).1)
    (fun _ _ hs hapart => (step_spec hs hapart).2) (sound_registered gs) h

/-- Two buttons, one after the other. -/
theorem independent_run_apart :
    AllSteps Device.step (Independent [4, 5]) (registered [4, 5])
      [.press 4, .tick, .tick, .release 4, .press 5, .tick, .release 5] :=
  independent_run [4, 5] _ (by decide)

/-- Two buttons that overlap. The second press moves `start`, so that the release of the
first button reports one tick for its two; and the release of the second one stops the timer
of the first, which is held for 500 ticks without a status callback. -/
theorem overlapping_presses :
    (¬ AllSteps Device.step (Independent [4, 5]) (registered [4, 5])
        [.press 4, .tick, .press 5, .tick, .release 4])
      ∧ .inputCallbackStatus 1
        ∉ (run Device.step (registered [4, 5])
          ([.press 4, .press 5, .release 5] ++ List.replicate 500 .tick)).2 := by
  refine ⟨?_, by decide +kernel⟩
  intro h
  exact absurd (h.2.2.2.2.1 (by decide) 2 rfl) (by decide)

end ControlFan.Input
