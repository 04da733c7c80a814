import ControlFan.Blynk.Phase

/-!
# Blynk — the bytes to the server

A message that is taken from the queue is serialised into `wr_buf`, and `buf_total` and `buf_sent`
follow its frame through the writes until all of it is out; only then the next message is taken.
That is the bookkeeping. What is written is not `wr_buf` but a fixed text.

* **`frames`**, **`sentBytes`** — the frames of a connection, and the bytes that the server's
  socket has accepted;
* **`Sys.Faithful`** — what was accepted is the start of the frames, up to `buf_sent` in the current
  one;
* **`Transmits`** — the invariant behind it;
* **`faithful_iff_run`** — it holds exactly as long as the text happens to be the frame.
-/

namespace ControlFan.Blynk

open CString Machine

/-! ## Frames and bytes of a connection -/

def Event.frameBytes : Event → Option (List UInt8)
  | .frame ctl id => some (blynkSerialize wrBufSize { ctl.message with id := id })
  | _ => none

def Event.sentBytes : Event → Option (List UInt8)
  | .sent bytes => some bytes
  | _ => none

/-- The frames of the current connection, in the order of their messages. -/
def frames (es : List Event) : List (List UInt8) :=
  ((session es).filterMap Event.frameBytes).reverse

/-- The bytes that the socket of the current connection has accepted. -/
def sentBytes (es : List Event) : List UInt8 :=
  ((session es).filterMap Event.sentBytes).reverse.flatten

section Lists

variable (es : List Event)

@[simp] theorem frames_connected : frames (.connected :: es) = [] := by
  rw [frames, session_connected]
  rfl

@[simp] theorem sentBytes_connected : sentBytes (.connected :: es) = [] := by
  rw [sentBytes, session_connected]
  rfl

@[simp] theorem frames_taken (ctl : Ctl) : frames (.taken ctl :: es) = frames es := by
  rw [frames, session_cons rfl]
  rfl

@[simp] theorem sentBytes_taken (ctl : Ctl) : sentBytes (.taken ctl :: es) = sentBytes es := by
  rw [sentBytes, session_cons rfl]
  rfl

@[simp] theorem frames_frame (ctl : Ctl) (id : UInt16) :
    frames (.frame ctl id :: es)
      = frames es ++ [blynkSerialize wrBufSize { ctl.message with id := id }] := by
  rw [frames, session_cons rfl, List.filterMap_cons]
  exact List.reverse_cons

@[simp] theorem sentBytes_frame (ctl : Ctl) (id : UInt16) :
    sentBytes (.frame ctl id :: es) = sentBytes es := by
  rw [sentBytes, session_cons rfl]
  rfl

@[simp] theorem frames_sent (bytes : List UInt8) : frames (.sent bytes :: es) = frames es := by
  rw [frames, session_cons rfl]
  rfl

@[simp] theorem sentBytes_sent (bytes : List UInt8) :
    sentBytes (.sent bytes :: es) = sentBytes es ++ bytes := by
  rw [sentBytes, session_cons rfl, List.filterMap_cons]
  show (bytes :: (session es).filterMap Event.sentBytes).reverse.flatten = _
  rw [List.reverse_cons, List.flatten_append, List.flatten_singleton]
  rfl

end Lists

/-! ## The contract -/

/-- A new connection whose buffer is not reset yet. -/
def Pc.fresh : Pc → Bool
  | .setConnected => true
  | .reset => true
  | _ => false

/-- A message is taken only when all frames before it are out. -/
def TakenBehind (es : List Event) (e : Event) : Prop :=
  ∀ ctl, e = .taken ctl → sentBytes es = (frames es).flatten

/-- What the socket has accepted, against the frames. The log is that of the loop. -/
structure Sys.Faithful (s : Sys) : Prop where
  written : sentBytes s.client.fixed.done <+: (frames s.client.fixed.done).flatten
  current : s.pc.fresh = false → s.client.rest.bufTotal ≠ 0 →
    ∃ old, frames s.client.fixed.done = old ++ [s.client.rest.wrBuf]
      ∧ sentBytes s.client.fixed.done
        = old.flatten ++ s.client.rest.wrBuf.take s.client.rest.bufSent
  taken : Explained TakenBehind s.client.fixed.done

/-- The step of the task calls `write` for the server, and it succeeds. -/
def Sys.writes (s : Sys) (e : Env) : Bool :=
  s.client.rest.reports.isEmpty
    && (match s.pc with
      | .write ready => s.client.rest.bufTotal != 0 && ready.wr
      | _ => false)
    && !e.wrError && !e.wrAgain

/-- What the server's socket accepts is what comes next in `wr_buf`. -/
def Sys.WritesFrame (s : Sys) : Input → Prop
  | .task e =>
    s.writes e = true →
      (writtenBytes e).take e.accepted <+: s.client.rest.wrBuf.drop s.client.rest.bufSent
  | _ => True

/-! ## The invariant -/

/-- What the loop knows about the frames, from a place in it. -/
structure Transmits (pc : Pc) (f : Fixed) : Prop where
  new : pc.fresh = true → frames f.done = [] ∧ sentBytes f.done = []
  between : pc.fresh = false → f.bufTotal = 0 → sentBytes f.done = (frames f.done).flatten
  within : pc.fresh = false → f.bufTotal ≠ 0 →
    f.bufTotal = f.wrBuf.length ∧ f.bufSent < f.bufTotal
      ∧ ∃ old, frames f.done = old ++ [f.wrBuf]
        ∧ sentBytes f.done = old.flatten ++ f.wrBuf.take f.bufSent
  taken : Explained TakenBehind f.done

theorem Transmits.faithful {s : Sys} (h : Transmits s.pc s.client.fixed) : s.Faithful := by
  refine ⟨?_, fun hpc hbuf => ?_, h.taken⟩
  · cases hpc : s.pc.fresh with
    | true =>
      rw [(h.new hpc).2]
      exact List.nil_prefix
    | false =>
      rcases eq_or_ne s.client.rest.bufTotal 0 with hbuf | hbuf
      · rw [h.between hpc hbuf]
      · obtain ⟨-, -, old, hframes, hsent⟩ := h.within hpc hbuf
        rw [hframes, hsent, List.flatten_append, List.flatten_singleton]
        exact (List.prefix_append_right_inj _).mpr (List.take_prefix _ _)
  · obtain ⟨-, -, hold⟩ := h.within hpc hbuf
    exact hold

/-- Steps that keep the fields of the loop and do not enter or leave the start of a connection. -/
theorem Transmits.of_eq {pc pc' : Pc} {f : Fixed} (h : Transmits pc f) (hpc : pc.fresh = false)
    (hpc' : pc'.fresh = false) : Transmits pc' f where
  new := fun hnew => by rw [hpc'] at hnew; cases hnew
  between := fun _ => h.between hpc
  within := fun _ => h.within hpc
  taken := h.taken

theorem Transmits.connect {pc : Pc} {f : Fixed} (h : Transmits pc f) :
    Transmits .setConnected { f with done := .connected :: f.done } where
  new := fun _ => ⟨frames_connected _, sentBytes_connected _⟩
  between := fun hpc => by cases hpc
  within := fun hpc => by cases hpc
  taken := ⟨fun _ hctl => (by cases hctl), h.taken⟩

theorem Transmits.reset {f : Fixed} (h : Transmits .reset f) :
    Transmits .advancePing { f with bufTotal := 0 } where
  new := fun hpc => by cases hpc
  between := fun _ _ => by
    obtain ⟨hframes, hsent⟩ := h.new rfl
    show sentBytes f.done = (frames f.done).flatten
    rw [hframes, hsent]
    rfl
  within := fun _ hbuf => absurd rfl hbuf
  taken := h.taken

/-- A message is taken: nothing of an older frame is left. -/
theorem Transmits.dequeue {pc pc' : Pc} {f : Fixed} (h : Transmits pc f) (hpc : pc.fresh = false)
    (hpc' : pc'.fresh = false) (hbuf : f.bufTotal = 0) (ctl : Ctl) :
    Transmits pc' { f with done := .taken ctl :: f.done } where
  new := fun hnew => by rw [hpc'] at hnew; cases hnew
  between := fun _ _ => by
    show sentBytes (.taken ctl :: f.done) = (frames (.taken ctl :: f.done)).flatten
    rw [sentBytes_taken, frames_taken, h.between hpc hbuf]
  within := fun _ hne => absurd hbuf hne
  taken := ⟨fun _ _ => h.between hpc hbuf, h.taken⟩

theorem Transmits.serialize {pc : Pc} {f : Fixed} (h : Transmits pc f) (hpc : pc.fresh = false)
    (hbuf : f.bufTotal = 0) (ctl : Ctl) (id : UInt16) {frame : List UInt8}
    (hframe : frame = blynkSerialize wrBufSize { ctl.message with id := id }) :
    Transmits (.select true)
      { f with
        done := .frame ctl id :: .taken ctl :: f.done
        wrBuf := frame, bufTotal := frame.length, bufSent := 0 } where
  new := fun hnew => by cases hnew
  between := fun _ hzero => by
    exact absurd hzero (by rw [hframe]; exact Nat.succ_ne_zero _)
  within := fun _ hne => by
    refine ⟨rfl, Nat.pos_of_ne_zero hne, frames f.done, ?_, ?_⟩
    · show frames (.frame ctl id :: .taken ctl :: f.done) = _
      rw [frames_frame, frames_taken, hframe]
    · show sentBytes (.frame ctl id :: .taken ctl :: f.done) = _ ++ frame.take 0
      rw [sentBytes_frame, sentBytes_taken, List.take_zero, List.append_nil, h.between hpc hbuf]
  taken :=
    ⟨fun _ hctl => (by cases hctl), fun _ _ => h.between hpc hbuf, h.taken⟩

/-- A write of the text: the bookkeeping stays right exactly if the text is the frame. -/
theorem Transmits.write {pc : Pc} {f : Fixed} (h : Transmits pc f) (hpc : pc.fresh = false)
    (hbuf : f.bufTotal ≠ 0) {bytes : List UInt8} (hbytes : bytes <+: f.wrBuf.drop f.bufSent) :
    Transmits .poll
      { f with
        done := .sent bytes :: f.done
        bufSent := f.bufSent + bytes.length
        bufTotal := if f.bufTotal ≤ f.bufSent + bytes.length then 0 else f.bufTotal } := by
  obtain ⟨htotal, hlt, old, hframes, hsent⟩ := h.within hpc hbuf
  -- the bytes are the next ones of the frame
  have hnext : bytes = (f.wrBuf.drop f.bufSent).take bytes.length :=
    List.prefix_iff_eq_take.mp hbytes
  have htake : sentBytes f.done ++ bytes
      = old.flatten ++ f.wrBuf.take (f.bufSent + bytes.length) := by
    rw [hsent, List.append_assoc, List.take_add, ← hnext]
  have hdone : Explained TakenBehind (.sent bytes :: f.done) :=
    ⟨fun _ hctl => (by cases hctl), h.taken⟩
  rcases Nat.lt_or_ge (f.bufSent + bytes.length) f.bufTotal with hmore | hall
  · rw [if_neg (Nat.not_le.mpr hmore)]
    refine ⟨fun hnew => (by cases hnew), fun _ hzero => absurd hzero hbuf, fun _ _ => ?_, hdone⟩
    refine ⟨htotal, hmore, old, ?_, ?_⟩
    · exact (frames_sent _ _).trans hframes
    · exact (sentBytes_sent _ _).trans htake
  · rw [if_pos hall]
    refine ⟨fun hnew => (by cases hnew), fun _ _ => ?_, fun _ hne => absurd rfl hne, hdone⟩
    show sentBytes (.sent bytes :: f.done) = (frames (.sent bytes :: f.done)).flatten
    rw [sentBytes_sent, frames_sent, htake, hframes, List.flatten_append, List.flatten_singleton,
      List.take_of_length_le (by omega)]

/-- The converse: bytes that leave a start of the frames are the next ones of the frame. -/
theorem Transmits.prefix_of_written {pc : Pc} {f : Fixed} (h : Transmits pc f)
    (hpc : pc.fresh = false) (hbuf : f.bufTotal ≠ 0) {bytes : List UInt8}
    (hwritten : sentBytes (.sent bytes :: f.done) <+: (frames (.sent bytes :: f.done)).flatten) :
    bytes <+: f.wrBuf.drop f.bufSent := by
  obtain ⟨-, -, old, hframes, hsent⟩ := h.within hpc hbuf
  rw [sentBytes_sent, frames_sent, hframes, hsent, List.flatten_append, List.flatten_singleton,
    List.append_assoc, List.prefix_append_right_inj] at hwritten
  have hwhole : f.wrBuf.take f.bufSent ++ bytes
      <+: f.wrBuf.take f.bufSent ++ f.wrBuf.drop f.bufSent := by
    rw [List.take_append_drop]
    exact hwritten
  exact (List.prefix_append_right_inj _).mp hwhole

/-! ## All runs -/

theorem Move.not_fresh {c : Client Rest} {pc pc' : Pc} (h : Move c pc pc') :
    pc.fresh = false ∧ pc'.fresh = false := by
  cases h <;> exact ⟨rfl, rfl⟩

theorem fresh_of_callsSystem {pc : Pc} (h : pc.callsSystem = true) : pc.fresh = false := by
  cases pc <;> first | rfl | cases h

theorem Sys.writes_iff {s : Sys} {e : Env} :
    s.writes e = true
      ↔ s.client.rest.reports = [] ∧ (∃ ready, s.pc = .write ready
          ∧ (s.client.rest.bufTotal ≠ 0 ∧ ready.wr = true))
        ∧ e.wrError = false ∧ e.wrAgain = false := by
  unfold Sys.writes
  cases s.pc <;> simp [and_assoc]

/-- Such a step is the one that writes. -/
theorem client_of_writes {s : Sys} {e : Env} (h : s.writes e = true) :
    (s.step (.task e)).client = s.client.writeServer e := by
  obtain ⟨hreports, ⟨ready, hpc, hwr⟩, herror, hagain⟩ := Sys.writes_iff.mp h
  have htask : s.step (.task e) = s.blynkLoop e := by
    show s.task e = _
    unfold Sys.task
    rw [hreports]
  rw [htask]
  unfold Sys.blynkLoop
  rw [hpc]
  simp only [if_pos hwr, herror, hagain, Bool.false_eq_true, if_false]
  rfl

theorem transmits_turn {s : Sys} {e : Env} {c : Client Rest} {pc : Pc} (h : Turn s e c pc)
    (hs : Transmits s.pc s.client.fixed) (hreports : s.client.rest.reports = [])
    (hwrites : s.WritesFrame (.task e)) : Transmits pc c.fixed := by
  cases h with
  | ended => exact hs
  | move hmove => exact hs.of_eq hmove.not_fresh.1 hmove.not_fresh.2
  | unreachable hpc =>
    rw [(keeps_setDisconnected _ _ _).fixed]
    rcases hpc with hpc | hpc <;> exact hs.of_eq (by rw [hpc]; rfl) rfl
  | fail hpc =>
    rw [(keeps_setDisconnected _ _ _).fixed]
    exact hs.of_eq (fresh_of_callsSystem hpc) rfl
  | connect => exact hs.connect
  | setConnected hpc =>
    rw [fixed_setState]
    rw [hpc] at hs
    exact ⟨fun _ => hs.new rfl, fun hpc => (by cases hpc), fun hpc => (by cases hpc), hs.taken⟩
  | reset hpc =>
    rw [hpc] at hs
    exact hs.reset
  | advancePing hpc =>
    have hnext : Transmits .login s.client.fixed := hs.of_eq (by rw [hpc]; rfl) rfl
    exact ⟨hnext.new, hnext.between, hnext.within, hnext.taken⟩
  | login hpc =>
    rw [(keeps_sendOrDisconnect _ (isCommand_login _ _) _ _).fixed]
    exact hs.of_eq (by rw [hpc]; rfl) (by split_ifs <;> rfl)
  | noId hpc hbuf =>
    rw [(keeps_setDisconnected _ _ _).fixed]
    exact hs.dequeue (by rw [hpc]; rfl) rfl hbuf _
  | takeNew hpc hbuf => exact hs.serialize (by rw [hpc]; rfl) hbuf _ _ rfl
  | takeAnswer hpc hbuf => exact hs.serialize (by rw [hpc]; rfl) hbuf _ _ rfl
  | expire hpc =>
    rw [(keeps_invoke _ _ _ _).fixed]
    exact hs.of_eq (by rw [hpc]; rfl) rfl
  | @ping ready now hpc =>
    rw [(keeps_sendOrDisconnect _ rfl _ _).fixed]
    have hnext : Transmits (if (s.client.advancePing.sendOrDisconnect pingSend e.ctlWrite
        e.errno).2 = .ok then .check ready else .close) s.client.fixed :=
      hs.of_eq (by rw [hpc]; rfl) (by split_ifs <;> rfl)
    exact ⟨hnext.new, hnext.between, hnext.within, hnext.taken⟩
  | datagram hpc =>
    have hfixed : (s.client.readDatagram e).fixed = s.client.fixed := by
      unfold Client.readDatagram
      split_ifs <;> rfl
    rw [hfixed]
    exact hs.of_eq (by rw [hpc]; rfl) rfl
  | parse hpc =>
    rw [(keeps_parse _ _ _).fixed]
    exact hs.of_eq (by rw [hpc]; rfl) (by split_ifs <;> rfl)
  | write hpc hwr herror hagain =>
    have hbytes := hwrites (Sys.writes_iff.mpr ⟨hreports, ⟨_, hpc, hwr⟩, herror, hagain⟩)
    exact hs.write (by rw [hpc]; rfl) hwr.1 hbytes

theorem transmits_step {s s' : Sys} {i : Input} (h : Step s i s') (hphase : s.InPhase)
    (hs : Transmits s.pc s.client.fixed) (hwrites : s.WritesFrame i) :
    Transmits s'.pc s'.client.fixed := by
  cases h with
  | turn hreports hturn _ => exact transmits_turn hturn hs hreports hwrites
  | start _ hstate _ =>
    have hpc := pc_of_stopped hphase hstate
    exact hs.of_eq (by rw [hpc]; rfl) rfl
  | @wake t answer req _ _ =>
    show Transmits s.pc (s.client.wake answer).fixed
    rw [fixed_wake]
    exact hs
  | _ => exact ⟨hs.new, hs.between, hs.within, hs.taken⟩

theorem writesFrame_iff {s : Sys} (hphase : s.InPhase) (hs : Transmits s.pc s.client.fixed)
    (i : Input) : s.WritesFrame i ↔ (s.step i).Faithful := by
  constructor
  · intro hwrites
    exact (transmits_step (s.step_step i) hphase hs hwrites).faithful
  · intro hfaithful
    cases i with
    | task e =>
      intro hwrites
      obtain ⟨-, ⟨ready, hpc, hwr⟩, -, -⟩ := Sys.writes_iff.mp hwrites
      have hwritten := hfaithful.written
      rw [client_of_writes hwrites] at hwritten
      exact hs.prefix_of_written (by rw [hpc]; rfl) hwr.1 hwritten
    | _ => trivial

/-- **The transmit stream.** In every run, the bytes that were accepted are the start of the frames
after every step, with the bookkeeping right, exactly if every byte that the server's socket
accepts is the next one of `wr_buf`. -/
theorem faithful_iff_run (pair : Int × Int) (is : List Input) :
    AllSteps (silent Sys.step) (fun s i => (s.step i).Faithful) (.init pair) is
      ↔ AllSteps (silent Sys.step) Sys.WritesFrame (.init pair) is := by
  have hinit : Transmits (Sys.init pair).pc (Sys.init pair).client.fixed :=
    ⟨fun hpc => (by cases hpc), fun _ _ => rfl, fun _ hbuf => absurd rfl hbuf, trivial⟩
  refine (allSteps_iff_of_inv
    (I := fun s : Sys => s.InPhase ∧ Transmits s.pc s.client.fixed) (fun s i hs hwrites => ?_)
    (fun s i hs => writesFrame_iff hs.1 hs.2 i) ⟨phase_init pair, hinit⟩).symm
  exact ⟨phase_step (s.step_step i) hs.1, transmits_step (s.step_step i) hs.1 hs.2 hwrites⟩

/-- The login is in `wr_buf`, and one byte of the text is accepted for it. -/
theorem text_written_for_login :
    ¬ AllSteps (silent Sys.step) (fun s i => (s.step i).Faithful) (.init (54, 55))
        (firstConnection ++ [.task {}, .task { wrReady := true }] ++ List.replicate 37 (.task {})
          ++ [.task { accepted := 1 }]) := by
  intro h
  rw [allSteps_append] at h
  have hwritten := h.2.1.written
  exact absurd hwritten (by decide +kernel)

end ControlFan.Blynk
