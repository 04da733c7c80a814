import ControlFan.Blynk.Effects

/-!
# Blynk — the command handlers as a finite map

What `handle_message` does with a command, after any sequence of `blynk_set_handler` and
`blynk_remove_handler`: it should go by the registry, which knows names and no slots.

* **`Dispatched`** — the command goes to the handler of the registry, or is answered with
  `ILLEGAL_COMMAND`;
* **`Mirrors.names_of_full`** — a table without a free slot holds eight names;
* **`dispatched_run`** — this holds in all runs where every name of a set fits its slot;
* **`long_name_not_dispatched`** — it does not hold for a name of eight bytes.
-/

namespace ControlFan.Blynk

open CString Machine Slots

def Event.isCommand : Event → Bool
  | .command _ _ _ _ _ => true
  | _ => false

/-- No function is registered for the command. -/
def Registry.Unhandled (reg : Registry) (name : List UInt8) : Prop :=
  ∀ handler data, reg name ≠ some (some handler, data)

/-- What `handle_message` should do with the command `name`, going by the registry. -/
def Dispatched (reg : Registry) (e : Env) (c : Client Rest) (name : List UInt8)
    (args : List (List UInt8)) : Prop :=
  match reg name with
  | some (some handler, data) =>
    (handleMessage e c).rest.log
        = .command handler c.message.id name args data :: .received c.message :: c.rest.log
      ∧ (handleMessage e c).rest.queue = c.rest.queue
  | _ =>
    -- no handler is called, and one response is queued
    (handleMessage e c).rest.log.filter Event.isCommand = c.rest.log.filter Event.isCommand
      ∧ (handleMessage e c).rest.queue.map Ctl.message
        = c.rest.queue.map Ctl.message
          ++ [(responseSend c.message.id blynkStatusIllegalCommand).message]

theorem zero_notMem_of_mem_args {m : Message} {name : List UInt8} (h : name ∈ m.args) :
    0 ∉ name := by
  unfold Message.args at h
  rcases eq_or_ne m.len 0 with hlen | hlen
  · rw [if_pos hlen] at h
    cases h
  · rw [if_neg hlen] at h
    obtain ⟨p, -, rfl⟩ := List.mem_map.mp h
    exact zero_notMem_cstr _

/-- A send of the task that finds room queues one message and calls no handler. -/
theorem sendOrDisconnect_spec {c : Client Rest} (hroom : c.room = true) (s : Send)
    (answer : CtlWrite) (errno : Int) :
    (c.sendOrDisconnect s answer errno).1.rest.log.filter Event.isCommand
        = c.rest.log.filter Event.isCommand
      ∧ (c.sendOrDisconnect s answer errno).1.rest.queue.map Ctl.message
        = c.rest.queue.map Ctl.message ++ [s.message] := by
  rcases sendOrDisconnect_cases c s answer errno with ⟨hfull, -⟩ | ⟨-, -, heq⟩ | ⟨-, -, heq⟩
  · rw [hroom] at hfull
    cases hfull
  · obtain ⟨reports, hset⟩ :=
      setDisconnected_eq ((c.enqueue (c.ctl s)).printfN privCtr) .errno errno
    rw [heq, hset]
    exact ⟨rfl, List.map_append⟩
  · rw [heq]
    unfold Client.sent Client.wake
    split_ifs
    · exact ⟨rfl, List.map_append⟩
    · exact ⟨rfl, List.map_append⟩

/-- The dispatch of one message, with a table that holds the registry. -/
theorem Mirrors.dispatched {reg : Registry} {c : Client Rest} (h : Mirrors c.rest.handlers reg)
    (e : Env) {name : List UInt8} {args : List (List UInt8)}
    (hcmd : c.message.command = blynkCmdHardware) (hargs : c.message.args = name :: args)
    (hroom : reg.Unhandled name → c.room = true) : Dispatched reg e c name args := by
  have hname : cstr name = name := by
    refine cstr_eq_self (zero_notMem_of_mem_args (m := c.message) ?_)
    rw [hargs]
    exact List.mem_cons_self
  have hfind := h.find name
  rw [hname] at hfind
  unfold Dispatched
  cases hslot : findHandler c.rest.handlers name with
  | some slot =>
    rw [hslot, Option.map_some, eq_comm, Option.filter_eq_some_iff] at hfind
    obtain ⟨hreg, hsome⟩ := hfind
    obtain ⟨handler, hhandler⟩ := Option.isSome_iff_exists.mp hsome
    rw [hreg, handleMessage_command e hcmd hargs hslot]
    rw [show slot.handler = some handler from hhandler]
    exact ⟨rfl, rfl⟩
  | none =>
    rw [hslot, Option.map_none, eq_comm, Option.filter_eq_none_iff] at hfind
    have hnone : reg.Unhandled name := fun handler data hreg => hfind _ hreg rfl
    have hsend := sendOrDisconnect_spec (c := c.receive c.message.terminated) (hroom hnone)
      (responseSend c.message.id blynkStatusIllegalCommand) e.ctlWrite e.errno
    rw [← handleMessage_illegal e hcmd hargs hslot] at hsend
    cases hreg : reg name with
    | none => exact hsend
    | some v =>
      obtain ⟨handler, data⟩ := v
      cases handler with
      | none => exact hsend
      | some handler => exact absurd hreg (hnone handler data)

/-! ## The size of the table -/

/-- A table without a free slot holds eight names. -/
theorem Mirrors.names_of_full {t : Handlers} {reg : Registry} (h : Mirrors t reg)
    (hfull : ∀ s ∈ t.slots, s.free = false) :
    ∃ names : List (List UInt8), names.Nodup ∧ names.length = blynkMaxHandlers
      ∧ ∀ name ∈ names, (reg name).isSome := by
  have hkeys : keys (fun s => (HandlerSlot.entry s).map Prod.fst) t.slots
      = t.slots.map fun s => cstr s.command.bytes := by
    unfold keys
    rw [← List.filterMap_eq_map]
    refine List.filterMap_congr fun s hs => ?_
    rw [HandlerSlot.entry, hfull s hs]
    rfl
  refine ⟨_, h.map.nodup, ?_, fun name hname => h.map.mem_keys_iff.mp hname⟩
  rw [hkeys, List.length_map, t.hlen]

/-- `BLYNK_ERR_MEM` is returned only if eight other names are registered. -/
def Registered.FailsOnlyFull (r : Registered) (call : HandlerCall) : Prop :=
  ∀ name handler data, call = .set name handler data →
    (blynkSetHandler r.handlers name handler data).2 = .mem →
      ∃ names : List (List UInt8), names.Nodup ∧ names.length = blynkMaxHandlers
        ∧ cstr name ∉ names ∧ ∀ other ∈ names, (r.registry other).isSome

theorem Registered.failsOnlyFull {r : Registered} (h : Mirrors r.handlers r.registry)
    {call : HandlerCall} (hfits : call.Fits) : r.FailsOnlyFull call := by
  rintro name handler data rfl hmem
  rcases h.set hfits.1 hfits.2 handler data with ⟨hok, -⟩ | ⟨-, -, hnone, hfull⟩
  · rw [hok] at hmem
    cases hmem
  · obtain ⟨names, hnodup, hlength, hnames⟩ := h.names_of_full hfull
    refine ⟨names, hnodup, hlength, fun hin => ?_, hnames⟩
    have hsome := hnames _ hin
    rw [hnone] at hsome
    cases hsome

/-! ## All runs -/

/-- **The handler table is a finite map.** After any calls whose names fit their slots, every
command is dispatched as the registry says, if there is room for an answer when it needs one, and
no call found the table full that was not. -/
theorem dispatched_run (calls : List HandlerCall) (hfits : ∀ call ∈ calls, call.Fits) :
    (∀ (e : Env) (c : Client Rest) (name : List UInt8) (args : List (List UInt8)),
        c.rest.handlers = (run Registered.step .empty calls).1.handlers →
        c.message.command = blynkCmdHardware → c.message.args = name :: args →
        ((run Registered.step .empty calls).1.registry.Unhandled name → c.room = true) →
        Dispatched (run Registered.step .empty calls).1.registry e c name args)
      ∧ AllSteps Registered.step Registered.FailsOnlyFull .empty calls := by
  have hsteps : AllSteps Registered.step (fun _ call => call.Fits) .empty calls :=
    .of_forall_mem hfits _
  have hinit : Mirrors Registered.empty.handlers Registered.empty.registry := mirrors_empty
  have hstep : ∀ (r : Registered) (call : HandlerCall), Mirrors r.handlers r.registry → call.Fits →
      Mirrors (r.step call).1.handlers (r.step call).1.registry :=
    fun r call hr hcall => Registered.mirrors_step hr hcall
  constructor
  · intro e c name args hhandlers hcmd hargs hroom
    have hrun := run_inv (I := fun r : Registered => Mirrors r.handlers r.registry) hstep hinit hsteps
    rw [← hhandlers] at hrun
    exact hrun.dispatched e hcmd hargs hroom
  · exact hsteps.of_inv (I := fun r : Registered => Mirrors r.handlers r.registry) hstep
      (fun r call hr hcall => r.failsOnlyFull hr hcall) hinit

/-- A client behind `calls`, with a command of the server in `p->message`. -/
def commandClient (calls : List HandlerCall) (payload : List UInt8) : Client Rest :=
  { blynkInit (54, 55) with
    message :=
      { command := blynkCmdHardware, id := 1, len := UInt16.ofNat payload.length
        payload := memcpyZeroed 512 payload }
    rest :=
      { (blynkInit (54, 55)).rest with handlers := (run Registered.step .empty calls).1.handlers } }

/-- A handler that is replaced, and one that is removed. -/
def sampleCalls : List HandlerCall :=
  [.set (ascii ['v', 'w']) (some 1) 7, .set (ascii ['v', 'r']) (some 2) 8,
    .set (ascii ['v', 'w']) (some 3) 9, .remove (ascii ['v', 'r'])]

theorem dispatched_run_sampleCalls :
    (run Registered.step .empty sampleCalls).1.registry (ascii ['v', 'w']) = some (some 3, 9)
      ∧ Dispatched (run Registered.step .empty sampleCalls).1.registry {}
        (commandClient sampleCalls (ascii ['v', 'w'] ++ 0 :: ascii ['1'])) (ascii ['v', 'w'])
        [ascii ['1']]
      ∧ AllSteps Registered.step Registered.FailsOnlyFull .empty sampleCalls := by
  have hrun := dispatched_run sampleCalls (by simp [sampleCalls, HandlerCall.Fits]; decide)
  refine ⟨by decide +kernel, ?_, hrun.2⟩
  exact hrun.1 {} _ _ _ rfl rfl (by decide +kernel) fun _ => rfl

/-- A name of eight bytes. -/
def longName : List UInt8 := ascii ['r', 'e', 'l', 'a', 'y', '1', '2', '3']

/-- It is registered with success, and the command with this name is illegal all the same. -/
theorem long_name_not_dispatched :
    (run Registered.step .empty [.set longName (some 1) 0]).2 = [.ok]
      ∧ (commandClient [.set longName (some 1) 0] longName).message.args = [longName]
      ∧ ¬ Dispatched (run Registered.step .empty [.set longName (some 1) 0]).1.registry {}
          (commandClient [.set longName (some 1) 0] longName) longName [] := by
  refine ⟨by decide +kernel, by decide +kernel, fun h => ?_⟩
  have hreg : (run Registered.step .empty [.set longName (some 1) 0]).1.registry longName
      = some (some 1, 0) := by
    decide +kernel
  unfold Dispatched at h
  rw [hreg] at h
  exact absurd h.1 (by decide +kernel)

end ControlFan.Blynk
