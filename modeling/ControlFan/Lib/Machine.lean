import Mathlib.Data.List.Basic
import Mathlib.Data.List.Forall2
import Mathlib.Tactic.SplitIfs

/-!
# Machines — runs of a step function with outputs

A machine is a step function `step : σ → ι → σ × List ο`: from a state and one input it
gives the next state and the outputs of that step. This module says what a whole run is
and how facts about one step become facts about every run:

* **`run`** — the final state and all outputs, in order, of a list of inputs;
* **`AllSteps`** — every step of a run, seen from the state it starts in, satisfies a
  predicate. Side conditions ("no step takes the bad branch") and promises ("every step
  does what it should") are both stated with it;
* **`run_inv`** — the invariant rule: an invariant that every step meeting the side
  condition keeps holds at the end of every run whose steps meet it;
* **`AllSteps.of_inv`** — under an invariant, a step promise becomes a run promise;
* **`allSteps_iff_of_inv`** — two step predicates that agree under an invariant hold of
  exactly the same runs;
* **`run_blocks`** — inputs that come in blocks, each of which gives one output from every
  state between two blocks;
* **`runUntil`** — a run that is left at the first state with `stop`;
* **`length_add_le_of_measure`** — the rounds of a loop with an exit are paid for by a measure;
* **`Explained`**, **`since`**, **`inOrder`** — logs of events: each is explained by the earlier
  ones, the part of a log behind the last mark, and what a log says in the order of time.
-/

namespace Machine

variable {σ ι ο : Type}

def run (step : σ → ι → σ × List ο) : σ → List ι → σ × List ο
  | s, [] => (s, [])
  | s, i :: is => ((run step (step s i).1 is).1, (step s i).2 ++ (run step (step s i).1 is).2)

/-- Every step of the run from `s` over the inputs satisfies `C`, which sees the state the
step starts in and the step's input. -/
def AllSteps (step : σ → ι → σ × List ο) (C : σ → ι → Prop) : σ → List ι → Prop
  | _, [] => True
  | s, i :: is => C s i ∧ AllSteps step C (step s i).1 is

variable {step : σ → ι → σ × List ο} {C D : σ → ι → Prop}

instance AllSteps.decidable [∀ s i, Decidable (C s i)] :
    (s : σ) → (is : List ι) → Decidable (AllSteps step C s is)
  | _, [] => isTrue trivial
  | s, i :: is =>
    letI := AllSteps.decidable (step s i).1 is
    inferInstanceAs (Decidable (C s i ∧ AllSteps step C (step s i).1 is))

@[simp] theorem run_nil (s : σ) : run step s [] = (s, []) := rfl

theorem run_cons (s : σ) (i : ι) (is : List ι) :
    run step s (i :: is)
      = ((run step (step s i).1 is).1, (step s i).2 ++ (run step (step s i).1 is).2) := rfl

/-! ## Composition -/

theorem run_append (s : σ) (is js : List ι) :
    run step s (is ++ js)
      = ((run step (run step s is).1 js).1,
          (run step s is).2 ++ (run step (run step s is).1 js).2) := by
  induction is generalizing s with
  | nil => simp
  | cons i is ih => rw [List.cons_append, run_cons, ih, run_cons, List.append_assoc]

theorem allSteps_append (s : σ) (is js : List ι) :
    AllSteps step C s (is ++ js)
      ↔ AllSteps step C s is ∧ AllSteps step C (run step s is).1 js := by
  induction is generalizing s with
  | nil => simp [AllSteps]
  | cons i is ih =>
    show C s i ∧ AllSteps step C (step s i).1 (is ++ js) ↔ _
    rw [ih, ← and_assoc]
    rfl

/-! ## Invariant rules -/

/-- **The invariant rule.** `I` holds at the end of every run that starts in `I` and whose
steps all meet `C`, when a step meeting `C` keeps `I`. Induction on the inputs. -/
theorem run_inv {I : σ → Prop} (hstep : ∀ s i, I s → C s i → I (step s i).1)
    {s : σ} {is : List ι} (hs : I s) (hC : AllSteps step C s is) : I (run step s is).1 := by
  induction is generalizing s with
  | nil => exact hs
  | cons i is ih =>
    obtain ⟨hhead, htail⟩ := hC
    exact ih (hstep s i hs hhead) htail

/-- Under an invariant kept by every step meeting `C`, a promise `D` of each such step
holds of every step of the run. -/
theorem AllSteps.of_inv {I : σ → Prop} (hstep : ∀ s i, I s → C s i → I (step s i).1)
    (hD : ∀ s i, I s → C s i → D s i) {s : σ} {is : List ι} (hs : I s)
    (hC : AllSteps step C s is) : AllSteps step D s is := by
  induction is generalizing s with
  | nil => trivial
  | cons i is ih =>
    obtain ⟨hhead, htail⟩ := hC
    exact ⟨hD s i hs hhead, ih (hstep s i hs hhead) htail⟩

/-- Two step predicates that agree on the states of an invariant hold of the same runs. -/
theorem allSteps_iff_of_inv {I : σ → Prop} (hstep : ∀ s i, I s → C s i → I (step s i).1)
    (hiff : ∀ s i, I s → (C s i ↔ D s i)) {s : σ} {is : List ι} (hs : I s) :
    AllSteps step C s is ↔ AllSteps step D s is := by
  constructor
  · exact AllSteps.of_inv hstep (fun s i hI h => (hiff s i hI).mp h) hs
  · intro hD
    refine AllSteps.of_inv (C := D) ?_ (fun s i hI h => (hiff s i hI).mpr h) hs hD
    intro s i hI h
    exact hstep s i hI ((hiff s i hI).mpr h)

theorem AllSteps.mono (h : ∀ s i, C s i → D s i) {s : σ} {is : List ι}
    (hC : AllSteps step C s is) : AllSteps step D s is := by
  induction is generalizing s with
  | nil => trivial
  | cons i is ih => exact ⟨h s i hC.1, ih hC.2⟩

theorem AllSteps.and {s : σ} {is : List ι} (hC : AllSteps step C s is)
    (hD : AllSteps step D s is) : AllSteps step (fun s i => C s i ∧ D s i) s is := by
  induction is generalizing s with
  | nil => trivial
  | cons i is ih => exact ⟨⟨hC.1, hD.1⟩, ih hC.2 hD.2⟩

theorem AllSteps.of_forall (h : ∀ s i, C s i) (s : σ) (is : List ι) : AllSteps step C s is := by
  induction is generalizing s with
  | nil => trivial
  | cons i is ih => exact ⟨h s i, ih _⟩

theorem AllSteps.of_forall_mem {P : ι → Prop} {is : List ι} (h : ∀ i ∈ is, P i) (s : σ) :
    AllSteps step (fun _ i => P i) s is := by
  induction is generalizing s with
  | nil => trivial
  | cons i is ih =>
    obtain ⟨hhead, htail⟩ := List.forall_mem_cons.mp h
    exact ⟨hhead, ih htail _⟩

/-- Every output of a run whose steps only give outputs in `P` is in `P`. -/
theorem mem_outputs_of_allSteps {P : ο → Prop} {s : σ} {is : List ι}
    (h : AllSteps step (fun s i => ∀ o ∈ (step s i).2, P o) s is) :
    ∀ o ∈ (run step s is).2, P o := by
  induction is generalizing s with
  | nil => intro o ho; simp at ho
  | cons i is ih =>
    intro o ho
    rw [run_cons] at ho
    rcases List.mem_append.mp ho with hhead | htail
    · exact h.1 o hhead
    · exact ih h.2 o htail

/-! ## Blocks -/

/-- **Runs of blocks.** Each block, from a state of `I`, gives one output related to it by
`R` and ends in `I`: a run of blocks gives these outputs in order. Induction on the blocks. -/
theorem run_blocks {β : Type} {I : σ → Prop} {R : β → ο → Prop} {inputs : β → List ι}
    (hblock : ∀ s b, I s →
      I (run step s (inputs b)).1 ∧ ∃ o, (run step s (inputs b)).2 = [o] ∧ R b o)
    {s : σ} (hs : I s) (bs : List β) :
    I (run step s (bs.flatMap inputs)).1
      ∧ List.Forall₂ R bs (run step s (bs.flatMap inputs)).2 := by
  induction bs generalizing s with
  | nil => exact ⟨hs, List.Forall₂.nil⟩
  | cons b bs ih =>
    obtain ⟨hI, o, hout, hR⟩ := hblock s b hs
    obtain ⟨hend, hrest⟩ := ih hI
    rw [List.flatMap_cons, run_append, hout]
    exact ⟨hend, List.Forall₂.cons hR hrest⟩

/-! ## Runs that stop -/

/-- The run that is left behind the first step that ends in a state with `stop`. -/
def runUntil (step : σ → ι → σ × List ο) (stop : σ → Bool) : σ → List ι → σ × List ο
  | s, [] => (s, [])
  | s, i :: is =>
    if stop (step s i).1 then step s i
    else
      ((runUntil step stop (step s i).1 is).1,
        (step s i).2 ++ (runUntil step stop (step s i).1 is).2)

theorem mem_runUntil_cons {stop : σ → Bool} {s : σ} {i : ι} {is : List ι} {o : ο}
    (h : o ∈ (step s i).2) : o ∈ (runUntil step stop s (i :: is)).2 := by
  rw [runUntil]
  split_ifs
  · exact h
  · exact List.mem_append_left _ h

/-- A run whose outputs show that no step stopped it is a run to the end. -/
theorem runUntil_eq_run {stop : σ → Bool} {Bad : ο → Prop}
    (hbad : ∀ s i, stop s = false → stop (step s i).1 = true → ∃ o ∈ (step s i).2, Bad o)
    {s : σ} {is : List ι} (hs : stop s = false)
    (hout : ∀ o ∈ (runUntil step stop s is).2, ¬ Bad o) :
    runUntil step stop s is = run step s is ∧ stop (run step s is).1 = false := by
  induction is generalizing s with
  | nil => exact ⟨rfl, hs⟩
  | cons i is ih =>
    -- a step that stops would show a bad output
    have hgo : stop (step s i).1 = false := by
      rw [Bool.eq_false_iff]
      intro hstop
      obtain ⟨o, ho, hb⟩ := hbad s i hs hstop
      exact hout o (mem_runUntil_cons ho) hb
    rw [runUntil, hgo, if_neg (by decide)] at hout ⊢
    obtain ⟨hrun, hend⟩ := ih hgo fun o ho => hout o (List.mem_append_right _ ho)
    rw [hrun, run_cons]
    exact ⟨rfl, hend⟩

/-! ## Loops with an exit -/

variable {ε : Type}

/-- The rounds that a loop has made are paid for by a measure. The loop is the fold of its
body over the rounds: `.ok` at the top of the next one, `.error` where it is left. -/
theorem length_add_le_of_measure {body : σ → ι → Except ε σ} {Inv : σ → Prop} {μ : σ → Nat}
    (hbody : ∀ s i s', Inv s → body s i = .ok s' → Inv s' ∧ μ s' < μ s) {s s' : σ}
    {is : List ι} (hs : Inv s) (h : is.foldlM body s = .ok s') :
    Inv s' ∧ is.length + μ s' ≤ μ s := by
  induction is generalizing s with
  | nil =>
    obtain rfl : s = s' := Except.ok.inj h
    exact ⟨hs, by simp⟩
  | cons i is ih =>
    rw [List.foldlM_cons] at h
    cases hround : body s i with
    | error e =>
      rw [hround] at h
      cases h
    | ok t =>
      rw [hround] at h
      obtain ⟨ht, hless⟩ := hbody s i t hs hround
      obtain ⟨hs', hle⟩ := ih ht h
      refine ⟨hs', ?_⟩
      rw [List.length_cons]
      omega

/-! ## Histories -/

/-- A machine without outputs, for states that keep a log of their own. -/
def silent (f : σ → ι → σ) (s : σ) (i : ι) : σ × List Unit := (f s i, [])

/-- Every event of a log, newest first, is explained by those before it. -/
def Explained (P : List ε → ε → Prop) : List ε → Prop
  | [] => True
  | e :: es => P es e ∧ Explained P es

instance Explained.decidable {P : List ε → ε → Prop} [∀ es e, Decidable (P es e)] :
    (es : List ε) → Decidable (Explained P es)
  | [] => inferInstanceAs (Decidable True)
  | e :: es =>
    have := Explained.decidable (P := P) es
    inferInstanceAs (Decidable (P es e ∧ Explained P es))

/-- Events that need no explanation. -/
theorem Explained.append {P : List ε → ε → Prop} {new es : List ε} (h : Explained P es)
    (hnew : ∀ e ∈ new, ∀ es, P es e) : Explained P (new ++ es) := by
  induction new with
  | nil => exact h
  | cons e new ih =>
    obtain ⟨hhead, htail⟩ := List.forall_mem_cons.mp hnew
    exact ⟨hhead _, ih htail⟩

/-- Events that are explained by what is below all of them. -/
theorem Explained.append_of_below {P : List ε → ε → Prop} {new es : List ε} (h : Explained P es)
    (hnew : ∀ e ∈ new, ∀ pre, P (pre ++ es) e) : Explained P (new ++ es) := by
  induction new with
  | nil => exact h
  | cons e new ih =>
    obtain ⟨hhead, htail⟩ := List.forall_mem_cons.mp hnew
    exact ⟨hhead new, ih htail⟩

/-- The part of a log behind the last event with `mark`. -/
def since (mark : ε → Bool) (es : List ε) : List ε := es.takeWhile fun e => !mark e

theorem since_cons {mark : ε → Bool} {e : ε} (h : mark e = false) (es : List ε) :
    since mark (e :: es) = e :: since mark es := by
  rw [since, List.takeWhile_cons, h]
  rfl

theorem since_mark {mark : ε → Bool} {e : ε} (h : mark e = true) (es : List ε) :
    since mark (e :: es) = [] := by
  rw [since, List.takeWhile_cons, h]
  rfl

/-- What `f` finds in a log, the oldest first. -/
def inOrder {β : Type} (f : ε → Option β) (es : List ε) : List β := (es.filterMap f).reverse

theorem inOrder_cons {β : Type} (f : ε → Option β) (e : ε) (es : List ε) :
    inOrder f (e :: es) = inOrder f es ++ (f e).toList := by
  unfold inOrder
  rw [List.filterMap_cons]
  cases f e with
  | none => exact (List.append_nil _).symm
  | some b => exact List.reverse_cons

end Machine
