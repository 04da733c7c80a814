import ControlFan.Blynk.Effects

/-!
# Blynk — the control sockets

A send puts its message into the queue and then writes a datagram to `ctl[1]`, so that the task,
which may be in `select` with `ctl[0]`, comes back to the queue. In between it prints a text whose
`%n` stores a number to the memory behind the pointer argument, and that is `ctl[0]`.

* **`ctl0_step`** — what one step leaves in `ctl[0]`;
* **`descriptors_kept_iff`** — the two descriptors stay, exactly as long as no `printf` stores
  another number;
* **`wakeup_run`** — with the sockets that `blynk_init` made, a message in the queue does not wait
  for anything else.
-/

namespace ControlFan.Blynk

open CString Machine Slots

/-! ## The descriptors -/

/-- The number that a send of the task leaves in `ctl[0]`, if it finds room in the queue. -/
def Client.sendStores (c : Client Rest) (answer : CtlWrite) : Option Int :=
  if c.room then some (if answer = .refused then privCtr.length else privCtr2.length) else none

/-- The message of a command that no handler is registered for. -/
def Client.illegal (c : Client Rest) (m : Message) : Bool :=
  m.command == blynkCmdHardware
    && match m.args with
      | [] => false
      | name :: _ => (findHandler c.rest.handlers name).isNone

/-- The number that the last `printf` of a step of the task stores to `ctl[0]`. -/
def Sys.taskStores (s : Sys) (e : Env) : Option Int :=
  match s.pc with
  | .login => s.client.sendStores e.ctlWrite
  | .ping _ now =>
    if s.client.rest.pingDeadline % 2 ^ 32 ≠ 0 ∧ timerExpired s.client.rest.pingDeadline now then
      s.client.sendStores e.ctlWrite
    else none
  | .parse _ (d :: _) =>
    -- `id` stands in for `handle_message`: the parsers find the end of a message without it
    match (parse id s.client d).2 with
    | [] => none
    | call :: _ => if s.client.illegal call.message then s.client.sendStores e.ctlWrite else none
  | _ => none

/-- The two `printf` of a send that a thread makes. -/
def Sender.stores : Sender → Option Int
  | .queued _ => some privCtr.length
  | .written => some privCtr2.length
  | _ => none

def Sys.stores (s : Sys) : Input → Option Int
  | .tick _ => none
  | .task e => if s.client.rest.reports = [] then s.taskStores e else none
  | .call _ _ => none
  | .proceed t _ => (s.senders t).stores

theorem ctl0_setDisconnected (c : Client Rest) (reason : BlynkErr) (code : Int) :
    (setDisconnected c reason code).rest.ctl0 = c.rest.ctl0 := by
  obtain ⟨reports, heq⟩ := setDisconnected_eq c reason code
  rw [heq]

theorem ctl0_setState (c : Client Rest) (state : BlynkState) :
    (setState c state).rest.ctl0 = c.rest.ctl0 := by
  obtain ⟨reports, heq⟩ := setState_eq c state
  rw [heq]

theorem ctl0_invoke (c : Client Rest) (a : Awaiting) (status : UInt16) (cause : Cause) :
    (c.invoke a status cause).rest.ctl0 = c.rest.ctl0 := by
  rcases invoke_cases c a status cause with
    ⟨-, heq⟩ | ⟨handler, -, heq | ⟨reason, code, heq⟩ | ⟨-, -, heq⟩⟩
  · rw [heq]
  · rw [heq]
    rfl
  · rw [heq, ctl0_setDisconnected]
    rfl
  · rw [heq, ctl0_setState]
    rfl

theorem ctl0_sendOrDisconnect (c : Client Rest) (send : Send) (answer : CtlWrite) (errno : Int) :
    (c.sendOrDisconnect send answer errno).1.rest.ctl0
      = (c.sendStores answer).getD c.rest.ctl0 := by
  unfold Client.sendStores
  rcases sendOrDisconnect_cases c send answer errno with
    ⟨hroom, heq⟩ | ⟨hroom, hrefused, heq⟩ | ⟨hroom, hrefused, heq⟩
  · rw [heq, hroom]
    exact ctl0_setDisconnected _ _ _
  · rw [heq, hroom, if_pos rfl, if_pos hrefused]
    exact ctl0_setDisconnected _ _ _
  · rw [heq, hroom, if_pos rfl, if_neg hrefused]
    rfl

theorem ctl0_handleMessage (e : Env) (c : Client Rest) :
    (handleMessage e c).rest.ctl0
      = (if c.illegal c.message then c.sendStores e.ctlWrite else none).getD c.rest.ctl0 := by
  rcases eq_or_ne c.message.command blynkCmdResponse with hcmd | hcmd
  · have hlegal : c.illegal c.message = false := by
      rw [Client.illegal, hcmd]
      rfl
    rw [hlegal, handleMessage_response e c hcmd]
    refine foldl_invoke (P := fun c' => c'.rest.ctl0 = c.rest.ctl0) (fun c' a h => ?_) _ rfl
    rw [ctl0_invoke, h]
  rcases eq_or_ne c.message.command blynkCmdHardware with hhw | hhw
  · cases hargs : c.message.args with
    | nil =>
      obtain ⟨m, heq⟩ := handleMessage_other e hcmd (Or.inr hargs)
      rw [heq, Client.illegal, hargs, Bool.and_false]
      rfl
    | cons name args =>
      have hillegal : c.illegal c.message = (findHandler c.rest.handlers name).isNone := by
        rw [Client.illegal, hhw, hargs]
        rfl
      cases hfind : findHandler c.rest.handlers name with
      | some slot =>
        rw [hfind] at hillegal
        rw [handleMessage_command e hhw hargs hfind, hillegal]
        rfl
      | none =>
        rw [hfind] at hillegal
        rw [handleMessage_illegal e hhw hargs hfind, hillegal]
        exact ctl0_sendOrDisconnect (c.receive c.message.terminated) _ _ _
  · obtain ⟨m, heq⟩ := handleMessage_other e hcmd (Or.inl hhw)
    rw [heq, Client.illegal, beq_eq_false_iff_ne.mpr hhw]
    rfl

theorem ctl0_parse (e : Env) (c : Client Rest) (d : UInt8) :
    (parse (handleMessage e) c d).1.rest.ctl0
      = (match (parse id c d).2 with
        | [] => none
        | call :: _ => if c.illegal call.message then c.sendStores e.ctlWrite else none).getD
          c.rest.ctl0 := by
  obtain ⟨c', hparse | hparse, -, hrest⟩ := parse_cases c d
  · rw [hparse, hparse, hrest]
    rfl
  · rw [hparse, hparse, ← hrest]
    show (handleMessage e c').rest.ctl0 = _
    rw [ctl0_handleMessage]
    unfold Client.illegal Client.sendStores Client.room
    rw [hrest]
    rfl

theorem ctl0_turn {s : Sys} {e : Env} {c : Client Rest} {pc : Pc} (h : Turn s e c pc) :
    c.rest.ctl0 = (s.taskStores e).getD s.client.rest.ctl0 := by
  unfold Sys.taskStores
  cases h with
  | ended hpc => rcases hpc with hpc | hpc <;> rw [hpc] <;> rfl
  | move hmove =>
    generalize hpc : s.pc = pc₀ at hmove
    cases hmove with
    | noPing ready now hdue => simp only [if_neg hdue, Option.getD_none]
    | _ => rfl
  | unreachable hpc reason code =>
    rw [ctl0_setDisconnected]
    rcases hpc with hpc | hpc <;> rw [hpc] <;> rfl
  | fail hpc reason code =>
    rw [ctl0_setDisconnected]
    cases hat : s.pc <;> rw [hat] at hpc <;> first | rfl | cases hpc
  | connect hpc =>
    rw [hpc]
    rfl
  | setConnected hpc =>
    rw [hpc, ctl0_setState]
    rfl
  | reset hpc =>
    rw [hpc]
    rfl
  | advancePing hpc =>
    rw [hpc]
    rfl
  | login hpc =>
    rw [hpc]
    exact ctl0_sendOrDisconnect _ _ _ _
  | noId hpc =>
    rw [hpc, ctl0_setDisconnected]
    rfl
  | takeNew hpc =>
    rw [hpc]
    rfl
  | takeAnswer hpc =>
    rw [hpc]
    rfl
  | expire hpc =>
    rw [hpc, ctl0_invoke]
    rfl
  | ping hpc hdue =>
    rw [hpc]
    simp only [if_pos hdue]
    exact ctl0_sendOrDisconnect _ _ _ _
  | datagram hpc =>
    rw [hpc]
    unfold Client.readDatagram
    split_ifs <;> rfl
  | parse hpc => rw [hpc, ctl0_parse]
  | write hpc =>
    rw [hpc]
    rfl

/-- What one step leaves in `ctl[0]`. -/
theorem ctl0_step {s s' : Sys} {i : Input} (h : Step s i s') :
    s'.client.rest.ctl0 = (s.stores i).getD s.client.rest.ctl0 := by
  cases h with
  | tick => rfl
  | report e hreports =>
    have hstores : s.stores (.task e) = none := if_neg (by rw [hreports]; exact List.cons_ne_nil _ _)
    rw [hstores]
    rfl
  | @turn e c pc hreports hturn opt =>
    have hstores : s.stores (.task e) = s.taskStores e := if_pos hreports
    rw [hstores]
    exact ctl0_turn hturn
  | refuse => rfl
  | accept => rfl
  | configure => rfl
  | start => rfl
  | @wake t answer req hsender =>
    have hwake : (s.client.wake answer).rest.ctl0 = s.client.rest.ctl0 := by
      unfold Client.wake
      split_ifs <;> rfl
    rw [Sys.stores, hsender]
    exact hwake
  | wait answer hsender =>
    rcases hsender with hsender | ⟨ctl, hsender⟩ <;> rw [Sys.stores, hsender] <;> rfl
  | build hsender => rw [Sys.stores, hsender]; rfl
  | enqueue hsender => rw [Sys.stores, hsender]; rfl
  | giveUp hsender => rw [Sys.stores, hsender]; rfl
  | print hsender => rw [Sys.stores, hsender]; rfl
  | refused hsender => rw [Sys.stores, hsender]; rfl
  | finish hsender => rw [Sys.stores, hsender]; rfl
  | reported hsender => rw [Sys.stores, hsender]; rfl

theorem ctl1_step {s s' : Sys} {i : Input} (h : Step s i s') :
    s'.client.rest.ctl1 = s.client.rest.ctl1 := by
  cases h with
  | turn _ hturn _ => exact congrArg Prod.fst (given_turn hturn)
  | wake => exact congrArg Fixed.ctl1 (fixed_wake _ _)
  | _ => rfl

/-- The client has the two descriptors of the pair. -/
def Sys.Paired (pair : Int × Int) (s : Sys) : Prop :=
  s.client.rest.ctl0 = pair.1 ∧ s.client.rest.ctl1 = pair.2

instance (pair : Int × Int) (s : Sys) : Decidable (s.Paired pair) :=
  inferInstanceAs (Decidable (_ ∧ _))

/-- No `printf` of the step stores a number to `ctl[0]` that is not its descriptor. -/
def Sys.Spares (pair : Int × Int) (s : Sys) (i : Input) : Prop := ∀ n, s.stores i = some n → n = pair.1

theorem paired_step_iff {pair : Int × Int} {s : Sys} (hs : s.Paired pair) (i : Input) :
    (s.step i).Paired pair ↔ s.Spares pair i := by
  have hctl0 := ctl0_step (s.step_step i)
  have hctl1 := ctl1_step (s.step_step i)
  unfold Sys.Paired Sys.Spares
  rw [hctl0, hctl1, hs.2]
  cases s.stores i with
  | none => simp [hs.1]
  | some n => simp

/-- **The control descriptors.** In every run after `blynk_init` the client keeps the two
descriptors of `blynk_socketpair`, exactly if every number that a `printf` stores to `ctl[0]` is
the descriptor that is there. -/
theorem descriptors_kept_iff (pair : Int × Int) (is : List Input) :
    AllSteps (silent Sys.step) (fun s i => (s.step i).Paired pair) (.init pair) is
      ↔ AllSteps (silent Sys.step) (Sys.Spares pair) (.init pair) is := by
  refine allSteps_iff_of_inv (I := Sys.Paired pair) (fun s i _ h => h) (fun s i hs => ?_) ⟨rfl, rfl⟩
  exact paired_step_iff hs i

/-- The login of the first connection makes 11 of the descriptor 54. -/
theorem login_overwrites_descriptor :
    ¬ AllSteps (silent Sys.step) (fun s i => (s.step i).Paired (54, 55)) (.init (54, 55))
        firstConnection := by
  decide +kernel

/-! ## Wake-ups -/

/-- The system with the descriptors put back that `blynk_init` made. -/
def Sys.repair (s : Sys) : Sys :=
  { s with
    client :=
      { s.client with
        rest := { s.client.rest with ctl0 := s.client.rest.pair.1, ctl1 := s.client.rest.pair.2 } } }

/-- A step of the system, taking the control sockets to be the pair of `blynk_init`. -/
def Sys.pairedStep (s : Sys) (i : Input) : Sys := (s.step i).repair

/-- What becomes of the datagram that the step writes to `ctl[1]` for a thread. The task's own
sends need no wake-up. -/
def Sys.datagram (s : Sys) : Input → Option CtlWrite
  | .proceed t answer =>
    match s.senders t with
    | .printed _ => some answer
    | _ => none
  | _ => none

/-- A datagram is dropped or refused only while another one is unread. -/
def Sys.DropsOnlyUnread (s : Sys) (i : Input) : Prop :=
  s.datagram i = some .dropped ∨ s.datagram i = some .refused → 0 < s.client.rest.unread

instance (s : Sys) (i : Input) : Decidable (s.DropsOnlyUnread i) :=
  inferInstanceAs (Decidable (_ → _))

/-- The request that a thread has put into the queue and not yet written a datagram for. -/
def Sender.unwritten : Sender → Option Nat
  | .queued req => some req
  | .printed req => some req
  | _ => none

def Unwritten (senders : Nat → Sender) (ctl : Ctl) : Prop :=
  ∃ t, (senders t).unwritten = some ctl.req

/-- In `select` without the server's socket in `wrset`, a datagram is unread or every message in
the queue belongs to a sender that has its write still to do. -/
def Sys.Awake (s : Sys) : Prop :=
  s.pc = .select false →
    0 < s.client.rest.unread ∨ ∀ ctl ∈ s.client.rest.queue, Unwritten s.senders ctl

/-- A step of a thread that does not take it over its write. -/
theorem unwritten_update {senders : Nat → Sender} {t : Nat} {p : Sender}
    (h : (senders t).unwritten = none ∨ p.unwritten = (senders t).unwritten) {ctl : Ctl}
    (hctl : Unwritten senders ctl) : Unwritten (Function.update senders t p) ctl := by
  obtain ⟨u, hu⟩ := hctl
  refine ⟨u, ?_⟩
  rcases eq_or_ne u t with rfl | hne
  · rw [Function.update_self, h.resolve_left (by rw [hu]; exact Option.some_ne_none _), hu]
  · rw [Function.update_of_ne hne, hu]

theorem Sys.Awake.setSender {s : Sys} (hs : s.Awake) {t : Nat} {p : Sender}
    (h : (s.senders t).unwritten = none ∨ p.unwritten = (s.senders t).unwritten) :
    (s.setSender t p).Awake := by
  intro hpc
  refine (hs hpc).imp_right fun hqueue ctl hctl => ?_
  exact unwritten_update h (hqueue ctl hctl)

/-- A turn that ends in such a `select` found the queue empty. -/
theorem queue_of_select {s : Sys} {e : Env} {c : Client Rest} {pc : Pc} (h : Turn s e c pc)
    (hpc : pc = .select false) : c.rest.queue = [] := by
  cases h with
  | ended hat =>
    rw [hpc] at hat
    rcases hat with hat | hat <;> cases hat
  | move hmove =>
    subst hpc
    generalize s.pc = pc₀ at hmove
    cases hmove with
    | nothing hqueue => exact hqueue
  | login => split_ifs at hpc
  | ping => split_ifs at hpc
  | parse => split_ifs at hpc
  | _ => cases hpc

theorem awake_step {s s' : Sys} {i : Input} (h : Step s i s') (hs : s.Awake)
    (hsock : s.client.rest.ctl1 = s.client.rest.pair.2) (hdrop : s.DropsOnlyUnread i) :
    s'.Awake := by
  cases h with
  | turn _ hturn _ =>
    intro hpc
    refine Or.inr fun ctl hctl => ?_
    rw [show _ = [] from queue_of_select hturn hpc] at hctl
    cases hctl
  | accept hidle _ => exact hs.setSender (Or.inl (by rw [hidle]; rfl))
  | start hidle _ _ =>
    intro hpc
    cases hpc
  | build hsender => exact hs.setSender (Or.inl (by rw [hsender]; rfl))
  | @enqueue t answer ctl hsender _ =>
    -- the new message belongs to the thread that put it there
    intro hpc
    refine (hs hpc).imp_right fun hqueue ctl' hctl' => ?_
    rcases List.mem_append.mp hctl' with hold | hnew
    · exact unwritten_update (Or.inl (by rw [hsender]; rfl)) (hqueue ctl' hold)
    · rw [List.mem_singleton.mp hnew]
      refine ⟨t, ?_⟩
      show (Function.update s.senders t (.queued s.client.rest.nreq) t).unwritten = _
      rw [Function.update_self]
      rfl
  | giveUp hsender => exact hs.setSender (Or.inl (by rw [hsender]; rfl))
  | @print t answer req hsender =>
    have hkeep := hs.setSender (t := t) (p := .printed req) (Or.inr (by rw [hsender]; rfl))
    exact hkeep
  | @refused t req hsender =>
    have hunread : 0 < s.client.rest.unread :=
      hdrop (Or.inr (by rw [Sys.datagram, hsender]))
    exact fun _ => Or.inl hunread
  | @wake t answer req hsender hanswer =>
    intro _
    left
    show 0 < (s.client.wake answer).rest.unread
    cases answer with
    | delivered =>
      rw [Client.wake, if_pos ⟨rfl, hsock⟩]
      exact Nat.succ_pos _
    | dropped =>
      rw [Client.wake, if_neg (by simp)]
      exact hdrop (Or.inl (by rw [Sys.datagram, hsender]))
    | refused => exact absurd rfl hanswer
  | finish hsender =>
    have hkeep := hs.setSender (p := .idle) (Or.inl (by rw [hsender]; rfl))
    exact hkeep
  | reported hsender =>
    have hkeep := hs.setSender (p := .idle) (Or.inl (by rw [hsender]; rfl))
    exact hkeep
  | _ => exact hs

/-- **No lost wake-up.** In every run of the task and any number of senders, with the control
sockets of `blynk_init` and datagrams that get lost only while another one is unread, the task
never sleeps in `select` over a message whose sender has done its write. -/
theorem wakeup_run (pair : Int × Int) {is : List Input}
    (hdrop : AllSteps (silent Sys.pairedStep) Sys.DropsOnlyUnread (.init pair) is) :
    (run (silent Sys.pairedStep) (.init pair) is).1.Awake := by
  refine (run_inv (I := fun s : Sys => s.Awake ∧ s.client.rest.ctl1 = s.client.rest.pair.2)
    (fun s i hs hi => ?_) ⟨fun hpc => ?_, rfl⟩ hdrop).1
  · have hkeep : (s.step i).Awake := awake_step (s.step_step i) hs.1 hs.2 hi
    exact ⟨hkeep, rfl⟩
  · cases hpc

/-- The login goes out and its datagram is read, and then a thread queues a response. -/
def sampleSleep : List Input :=
  firstConnection ++ [.task {}, .task { nfds := 2, ctlReady := true, wrReady := true }]
    ++ List.replicate 37 (.task {}) ++ [.task { accepted := 92 }, .task {}]
    ++ [.call 1 (.sendResponse 5 200), .proceed 1 .delivered, .proceed 1 .delivered]

theorem wakeup_run_sampleSleep :
    (run (silent Sys.pairedStep) (.init (54, 55)) sampleSleep).1.pc = .select false
      ∧ (run (silent Sys.pairedStep) (.init (54, 55)) sampleSleep).1.client.rest.unread = 0
      ∧ (run (silent Sys.pairedStep) (.init (54, 55)) sampleSleep).1.client.rest.queue ≠ []
      ∧ (run (silent Sys.pairedStep) (.init (54, 55)) sampleSleep).1.Awake := by
  have hsleep : (run (silent Sys.pairedStep) (.init (54, 55)) sampleSleep).1.pc = .select false
      ∧ (run (silent Sys.pairedStep) (.init (54, 55)) sampleSleep).1.client.rest.unread = 0
      ∧ (run (silent Sys.pairedStep) (.init (54, 55)) sampleSleep).1.client.rest.queue ≠ [] := by
    decide +kernel
  exact ⟨hsleep.1, hsleep.2.1, hsleep.2.2, wakeup_run (54, 55) (by decide +kernel)⟩

end ControlFan.Blynk
