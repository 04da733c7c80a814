import ControlFan.Blynk.Effects

/-!
# Blynk — sends that fail

A send has two effects, an entry in `ctl_queue` and a datagram that wakes the task. If the second one
fails, `blynk_send_internal` returns an error and leaves the entry where it is: the message is sent
all the same, and once more if the caller tries again.

* **`SendCall`** — the functions that end in `blynk_send_internal`, with **`proceed_run`** for a thread
  that is in one of them;
* **`AllOrNothing`** — the result says whether the message was queued, and an error changes nothing;
* **`retry`** — a caller that tries until it succeeds;
* **`all_or_nothing_iff`** — this holds of every send whose datagram is not refused.
-/

namespace ControlFan.Blynk

open Machine

/-! ## The functions that send -/

/-- `blynk_send_internal` itself; `blynk_send` and `blynk_send_with_callback`, which differ in the
handler of their command; and `blynk_send_response`. -/
inductive SendCall where
  | sendInternal (s : Send)
  | sendWithCallback (k : Command)
  | sendResponse (id status : UInt16)

/-- What the function passes to `blynk_send_internal`, if it gets that far. -/
def SendCall.send : SendCall → Send
  | .sendInternal s => s
  | .sendWithCallback k => k.send
  | .sendResponse id status => responseSend id status

/-- The checks before the call of `blynk_send_internal`. -/
def SendCall.check (state : BlynkState) : SendCall → Except BlynkErr Send
  | .sendInternal s => .ok s
  | .sendWithCallback k => blynkSendWithCallbackV state k
  | .sendResponse id status => .ok (responseSend id status)

def SendCall.perform (call : SendCall) (c : Client Rest) (answer : CtlWrite) :
    Client Rest × BlynkErr :=
  match call.check c.state with
  | .ok s => blynkSendInternal c s answer
  | .error err => (c, err)

theorem check_cases (call : SendCall) (state : BlynkState) :
    call.check state = .ok call.send ∨ ∃ err, call.check state = .error err ∧ err ≠ .ok := by
  cases call with
  | sendInternal s => exact Or.inl rfl
  | sendResponse id status => exact Or.inl rfl
  | sendWithCallback k =>
    show blynkSendWithCallbackV state k = _ ∨ ∃ err, blynkSendWithCallbackV state k = _ ∧ _
    unfold blynkSendWithCallbackV
    split_ifs
    · exact Or.inr ⟨_, rfl, BlynkErr.noConfusion⟩
    · cases state with
      | authenticated => exact Or.inl rfl
      | _ => exact Or.inr ⟨_, rfl, BlynkErr.noConfusion⟩

/-- The entry of the message in `ctl_queue`. -/
def Client.entry (c : Client Rest) (s : Send) : Ctl := { c.ctl s with req := c.rest.nreq }

/-- The four outcomes of a send. -/
theorem perform_cases (call : SendCall) (c : Client Rest) (answer : CtlWrite) :
    (∃ err, err ≠ .ok ∧ call.check c.state = .error err ∧ call.perform c answer = (c, err))
      ∨ (c.room = false ∧ call.perform c answer = (c, .mem))
      ∨ (call.check c.state = .ok call.send ∧ c.room = true ∧ answer = .refused
        ∧ call.perform c answer = ((c.enqueue (c.ctl call.send)).printfN privCtr, .errno))
      ∨ (answer ≠ .refused ∧ call.perform c answer = (c.sent call.send answer, .ok)) := by
  unfold SendCall.perform
  rcases check_cases call c.state with hok | ⟨err, herr, hne⟩
  · rw [hok]
    rcases blynkSendInternal_cases c call.send answer with
      ⟨hroom, heq⟩ | ⟨hroom, hrefused, heq⟩ | ⟨-, hanswer, heq⟩
    · exact Or.inr (Or.inl ⟨hroom, heq⟩)
    · exact Or.inr (Or.inr (Or.inl ⟨rfl, hroom, hrefused, heq⟩))
    · exact Or.inr (Or.inr (Or.inr ⟨hanswer, heq⟩))
  · rw [herr]
    exact Or.inl ⟨err, hne, rfl, rfl⟩

theorem queue_sent (c : Client Rest) (s : Send) (answer : CtlWrite) :
    (c.sent s answer).rest.queue = c.rest.queue ++ [c.entry s] := by
  obtain ⟨unread, hwake⟩ := wake_eq ((c.enqueue (c.ctl s)).printfN privCtr) answer
  unfold Client.sent
  rw [hwake]
  rfl

/-! ## Threads -/

/-- A thread behind its checks that finds room in the queue and is not interrupted does what
`blynk_send_internal` does. -/
theorem proceed_run {s : Sys} {t : Nat} {send : Send} (hsender : s.senders t = .checked send)
    (hroom : s.client.room = true) (answer : CtlWrite) :
    (run (silent Sys.step) s (List.replicate 5 (.proceed t answer))).1
      = { s with
          client := (blynkSendInternal s.client send answer).1
          senders := Function.update s.senders t .idle } := by
  unfold blynkSendInternal
  rcases eq_or_ne answer .refused with hrefused | hrefused
  · simp [List.replicate, run, silent, Sys.step, Sys.proceed, Sys.setSender, hsender, hroom, hrefused,
      Function.update_idem]
  · simp [List.replicate, run, silent, Sys.step, Sys.proceed, Sys.setSender, hsender, hroom, hrefused,
      Function.update_idem]

/-! ## All or nothing -/

structure AllOrNothing (call : SendCall) (c : Client Rest) (answer : CtlWrite) : Prop where
  ok_iff : (call.perform c answer).2 = .ok
    ↔ (call.perform c answer).1.rest.queue = c.rest.queue ++ [c.entry call.send]
  unchanged : (call.perform c answer).2 ≠ .ok → (call.perform c answer).1 = c

/-- If the message gets into the queue, the datagram is not refused. -/
def Woken (call : SendCall) (c : Client Rest) (answer : CtlWrite) : Prop :=
  call.check c.state = .ok call.send → c.room = true → answer ≠ .refused

theorem allOrNothing_of_unchanged {call : SendCall} {c : Client Rest} {answer : CtlWrite}
    {err : BlynkErr} (hne : err ≠ .ok) (heq : call.perform c answer = (c, err)) :
    AllOrNothing call c answer := by
  constructor
  · rw [heq]
    refine iff_of_false hne fun hqueue => ?_
    have hlength := congrArg List.length hqueue
    rw [List.length_append] at hlength
    exact absurd hlength (by simp)
  · rw [heq]
    exact fun _ => rfl

theorem allOrNothing_iff_woken (call : SendCall) (c : Client Rest) (answer : CtlWrite) :
    AllOrNothing call c answer ↔ Woken call c answer := by
  unfold Woken
  rcases perform_cases call c answer with
    ⟨err, hne, hcheck, heq⟩ | ⟨hroom, heq⟩ | ⟨hcheck, hroom, hrefused, heq⟩ | ⟨hanswer, heq⟩
  · refine iff_of_true (allOrNothing_of_unchanged hne heq) fun hok => ?_
    rw [hcheck] at hok
    cases hok
  · refine iff_of_true (allOrNothing_of_unchanged BlynkErr.noConfusion heq) fun _ hroom' => ?_
    rw [hroom] at hroom'
    cases hroom'
  · refine iff_of_false (fun h => ?_) fun h => h hcheck hroom hrefused
    have hok := h.ok_iff
    rw [heq] at hok
    cases hok.mpr rfl
  · refine iff_of_true ⟨?_, ?_⟩ fun _ _ => hanswer
    · rw [heq]
      exact iff_of_true rfl (queue_sent c _ answer)
    · rw [heq]
      exact fun h => absurd rfl h

/-! ## A caller that tries again -/

/-- One attempt: the answer to its datagram, and what the task and the other threads do to the client
before the next one. -/
structure Attempt where
  answer : CtlWrite
  others : Client Rest → Client Rest

/-- The caller stops behind the first `BLYNK_OK`. The outputs are the entries that its attempts make
in the queue. -/
def retry (call : SendCall) (s : Client Rest × Bool) (a : Attempt) :
    (Client Rest × Bool) × List Ctl :=
  if s.2 then (s, [])
  else
    let r := call.perform s.1 a.answer
    ((a.others r.1, r.2 = .ok), r.1.rest.queue.drop s.1.rest.queue.length)

/-- The attempt is not made, or its datagram is not refused behind the entry. -/
def RetryWoken (call : SendCall) (s : Client Rest × Bool) (a : Attempt) : Prop :=
  s.2 = false → Woken call s.1 a.answer

theorem retry_done (call : SendCall) (c : Client Rest) (as : List Attempt) :
    (run (retry call) (c, true) as).2 = [] := by
  induction as with
  | nil => rfl
  | cons a as ih => exact ih

/-- All attempts together make one entry at most. Induction on the attempts: one that fails has made
none. -/
theorem retry_once (call : SendCall) {c : Client Rest} {as : List Attempt}
    (h : AllSteps (retry call) (RetryWoken call) (c, false) as) :
    (run (retry call) (c, false) as).2.length ≤ 1 := by
  induction as generalizing c with
  | nil => exact Nat.zero_le 1
  | cons a as ih =>
    obtain ⟨hhead, htail⟩ := h
    have hatomic := (allOrNothing_iff_woken call c a.answer).mpr (hhead rfl)
    rw [run_cons, List.length_append]
    rcases eq_or_ne (call.perform c a.answer).2 .ok with hok | hfail
    · have hstep : retry call (c, false) a = ((a.others (call.perform c a.answer).1, true),
          [c.entry call.send]) := by
        unfold retry
        simp [hok, hatomic.ok_iff.mp hok]
      rw [hstep, retry_done]
      exact Nat.le_refl _
    · have hstep : retry call (c, false) a = ((a.others c, false), []) := by
        unfold retry
        simp [hfail, hatomic.unchanged hfail]
      rw [hstep] at htail ⊢
      rw [List.length_nil, Nat.zero_add]
      exact ih htail

/-- **All or nothing.** For every client and every answer, a send returns `BLYNK_OK` exactly if it
has put its message into the queue once, and changes nothing otherwise, if and only if the datagram
behind an entry is not refused; and a caller whose attempts all meet this never puts its message
into the queue twice. -/
theorem all_or_nothing_iff (call : SendCall) :
    (∀ c answer, AllOrNothing call c answer ↔ Woken call c answer)
      ∧ ∀ c as, AllSteps (retry call) (RetryWoken call) (c, false) as →
        (run (retry call) (c, false) as).2.length ≤ 1 :=
  ⟨allOrNothing_iff_woken call, fun _ _ h => retry_once call h⟩

theorem all_or_nothing_delivered :
    AllOrNothing (.sendResponse 7 200) (blynkInit (3, 4)) .delivered
      ∧ (run (retry (.sendResponse 7 200)) (blynkInit (3, 4), false)
          [⟨.delivered, id⟩, ⟨.refused, id⟩]).2.length ≤ 1 := by
  constructor
  · exact ((all_or_nothing_iff _).1 _ _).mpr fun _ _ => CtlWrite.noConfusion
  · refine (all_or_nothing_iff _).2 _ _ ⟨fun _ _ _ => CtlWrite.noConfusion, fun h => ?_, trivial⟩
    -- the second attempt is not made
    cases h

/-- The datagram of a response is refused, and the caller tries again: two entries. -/
theorem refused_send_queued :
    ¬ AllOrNothing (.sendResponse 7 200) (blynkInit (3, 4)) .refused
      ∧ (run (retry (.sendResponse 7 200)) (blynkInit (3, 4), false)
          [⟨.refused, id⟩, ⟨.delivered, id⟩]).2.length = 2 := by
  constructor
  · intro h
    have hcounts := h.ok_iff
    revert hcounts
    decide +kernel
  · decide +kernel

end ControlFan.Blynk
