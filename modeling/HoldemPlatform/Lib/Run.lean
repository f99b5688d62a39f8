import Mathlib.Data.List.Basic
import Mathlib.Data.List.Induction

/-!
# Runs of a State Machine

A machine is a step function on states and inputs; a run folds it over a list of inputs. `AllSteps`
says that every step of a run meets a condition on the state before it and on its input. The rules
here turn facts about one step into facts about every run.
-/

namespace HoldemPlatform.Lib.Run

variable {σ ι : Type}

/-- The state after a list of inputs. -/
def run (step : σ → ι → σ) (s : σ) (inputs : List ι) : σ := inputs.foldl step s

/-- What a run puts out, step by step. -/
def outputs {ο : Type} (step : σ → ι → σ) (out : σ → ι → List ο) : σ → List ι → List ο
  | _, [] => []
  | s, i :: rest => out s i ++ outputs step out (step s i) rest

/-- Some input met `C` when it was taken, and every later one is `N`. -/
def Since (step : σ → ι → σ) (C : σ → ι → Prop) (N : ι → Prop) : σ → List ι → Prop
  | _, [] => False
  | s, i :: rest => (C s i ∧ ∀ j ∈ rest, N j) ∨ Since step C N (step s i) rest

/-- Every step of the run from `s` meets `C`. -/
def AllSteps (step : σ → ι → σ) (C : σ → ι → Prop) : σ → List ι → Prop
  | _, [] => True
  | s, i :: rest => C s i ∧ AllSteps step C (step s i) rest

/-- Some step of the run met `C` and every later one met `N`. -/
def SinceStep (step : σ → ι → σ) (C N : σ → ι → Prop) (s : σ) (inputs : List ι) : Prop :=
  ∃ before i after, inputs = before ++ i :: after ∧ C (run step s before) i ∧
    AllSteps step N (step (run step s before) i) after

instance decidableAllSteps (step : σ → ι → σ) (C : σ → ι → Prop) [∀ s i, Decidable (C s i)] :
    ∀ (s : σ) (inputs : List ι), Decidable (AllSteps step C s inputs)
  | _, [] => .isTrue trivial
  | s, i :: rest =>
    have := decidableAllSteps step C (step s i) rest
    inferInstanceAs (Decidable (_ ∧ _))

instance decidableSince (step : σ → ι → σ) (C : σ → ι → Prop) (N : ι → Prop)
    [∀ s i, Decidable (C s i)] [DecidablePred N] :
    ∀ (s : σ) (inputs : List ι), Decidable (Since step C N s inputs)
  | _, [] => .isFalse id
  | s, i :: rest =>
    have := decidableSince step C N (step s i) rest
    inferInstanceAs (Decidable (_ ∨ _))

section

variable {step : σ → ι → σ} {C : σ → ι → Prop}

@[simp] theorem run_nil (s : σ) : run step s [] = s := rfl

@[simp] theorem run_cons (s : σ) (i : ι) (rest : List ι) :
    run step s (i :: rest) = run step (step s i) rest := rfl

theorem run_append (s : σ) (before after : List ι) :
    run step s (before ++ after) = run step (run step s before) after :=
  List.foldl_append

theorem run_concat (s : σ) (before : List ι) (i : ι) :
    run step s (before ++ [i]) = step (run step s before) i := by
  rw [run_append, run_cons, run_nil]

theorem outputs_concat {ο : Type} (out : σ → ι → List ο) (s : σ) (before : List ι) (i : ι) :
    outputs step out s (before ++ [i]) = outputs step out s before ++ out (run step s before) i := by
  induction before generalizing s with
  | nil => rw [List.nil_append, outputs, outputs, outputs, List.append_nil, List.nil_append, run_nil]
  | cons j before ih => rw [List.cons_append, outputs, ih, outputs, List.append_assoc, run_cons]

theorem since_concat {N : ι → Prop} {inputs : List ι} {s : σ} {i : ι} :
    Since step C N s (inputs ++ [i]) ↔
      C (run step s inputs) i ∨ (Since step C N s inputs ∧ N i) := by
  induction inputs generalizing s with
  | nil => simp [Since]
  | cons j rest ih =>
    simp only [List.cons_append, Since, ih, run_cons, List.forall_mem_append,
      List.forall_mem_singleton]
    tauto

/-- What `C` sets and an `N` input keeps holds since the last `C`. -/
theorem run_of_since {N : ι → Prop} (P : σ → Prop) (hset : ∀ s i, C s i → P (step s i))
    (hkeep : ∀ s i, P s → N i → P (step s i)) {inputs : List ι} {s : σ}
    (h : Since step C N s inputs) : P (run step s inputs) := by
  induction inputs using List.reverseRecOn with
  | nil => exact h.elim
  | append_singleton inputs i ih =>
    rw [run_concat]
    rcases since_concat.1 h with h | ⟨h, hi⟩
    · exact hset _ i h
    · exact hkeep _ i (ih h) hi

/-- **The register rule**: what is off at the start, what exactly `C` sets and exactly an input
outside `N` clears, is on as long as `Since` says. -/
theorem run_iff_since {N : ι → Prop} (P : σ → Prop)
    (hstep : ∀ s i, P (step s i) ↔ C s i ∨ (P s ∧ N i)) {s : σ} (hinit : ¬ P s)
    (inputs : List ι) : P (run step s inputs) ↔ Since step C N s inputs := by
  induction inputs using List.reverseRecOn with
  | nil => exact iff_of_false hinit id
  | append_singleton inputs i ih => rw [run_concat, hstep, since_concat, ih]

/-- **The invariant rule**: what holds at the start and is kept by every step holds after every run. -/
theorem run_inv (Inv : σ → Prop) (hstep : ∀ s i, Inv s → Inv (step s i)) :
    ∀ (inputs : List ι) {s : σ}, Inv s → Inv (run step s inputs)
  | [], _, h => h
  | i :: rest, s, h => run_inv Inv hstep rest (hstep s i h)

/-- **The conditional invariant rule**: the steps only have to keep the invariant where they meet
the condition. -/
theorem AllSteps.run_inv {inputs : List ι} {s : σ} (hall : AllSteps step C s inputs)
    (Inv : σ → Prop) (hstep : ∀ s i, C s i → Inv s → Inv (step s i)) (h : Inv s) :
    Inv (run step s inputs) := by
  induction inputs generalizing s with
  | nil => exact h
  | cons i rest ih => exact ih hall.2 (hstep s i hall.1 h)

theorem AllSteps.append {before after : List ι} {s : σ} :
    AllSteps step C s (before ++ after) ↔
      AllSteps step C s before ∧ AllSteps step C (run step s before) after := by
  induction before generalizing s with
  | nil => simp [AllSteps]
  | cons i before ih => simp only [List.cons_append, AllSteps, ih, run_cons, and_assoc]

theorem SinceStep.now {N : σ → ι → Prop} {inputs : List ι} {s : σ} {i : ι}
    (h : C (run step s inputs) i) : SinceStep step C N s (inputs ++ [i]) :=
  ⟨inputs, i, [], rfl, h, trivial⟩

theorem SinceStep.later {N : σ → ι → Prop} {inputs : List ι} {s : σ} {i : ι}
    (h : SinceStep step C N s inputs) (hi : N (run step s inputs) i) :
    SinceStep step C N s (inputs ++ [i]) := by
  obtain ⟨before, j, after, rfl, hj, hafter⟩ := h
  rw [run_append, run_cons] at hi
  exact ⟨before, j, after ++ [i], List.append_assoc .., hj, AllSteps.append.2 ⟨hafter, hi, trivial⟩⟩

/-- **The history rule**: what is off at the start, and on after a step only if the step met `C`, or it
was on and the step met `N`, is on because of such a step. -/
theorem sinceStep_of_run {N : σ → ι → Prop} (Inv P : σ → Prop)
    (hinv : ∀ s i, Inv s → Inv (step s i))
    (hstep : ∀ s i, Inv s → P (step s i) → C s i ∨ (P s ∧ N s i)) {s : σ} (hs : Inv s)
    (hinit : ¬ P s) (inputs : List ι) (h : P (run step s inputs)) : SinceStep step C N s inputs := by
  induction inputs using List.reverseRecOn with
  | nil => exact absurd h hinit
  | append_singleton inputs i ih =>
    rw [run_concat] at h
    rcases hstep _ i (run_inv Inv hinv inputs hs) h with h | ⟨h, hi⟩
    · exact .now h
    · exact (ih h).later hi

theorem AllSteps.at {before after : List ι} {i : ι} {s : σ}
    (h : AllSteps step C s (before ++ i :: after)) : C (run step s before) i :=
  (AllSteps.append.1 h).2.1

theorem AllSteps.mono {D : σ → ι → Prop} (himp : ∀ s i, C s i → D s i) :
    ∀ {inputs : List ι} {s : σ}, AllSteps step C s inputs → AllSteps step D s inputs
  | [], _, _ => trivial
  | i :: _, s, h => ⟨himp s i h.1, AllSteps.mono himp h.2⟩

theorem allSteps_of_forall {P : ι → Prop} : ∀ {inputs : List ι} {s : σ}, (∀ i ∈ inputs, P i) →
    AllSteps step (fun _ i => P i) s inputs
  | [], _, _ => trivial
  | i :: _, _, h =>
    ⟨h i List.mem_cons_self, allSteps_of_forall fun j hj => h j (List.mem_cons_of_mem i hj)⟩

/-- **The exact condition of a step**: `D` and `C` hold of the same runs if they agree wherever the
steps so far have kept the state good, and `D` is what keeps it so. -/
theorem AllSteps.iff_of_good {V D : σ → ι → Prop} {inputs : List ι} {s : σ}
    (hall : AllSteps step V s inputs) (Inv Good : σ → Prop)
    (hstep : ∀ s i, V s i → Inv s → Inv (step s i))
    (hnext : ∀ s i, V s i → Inv s → Good s → D s i → Good (step s i))
    (hiff : ∀ s i, V s i → Inv s → Good s → (D s i ↔ C s i)) (hinv : Inv s) (hgood : Good s) :
    AllSteps step D s inputs ↔ AllSteps step C s inputs := by
  induction inputs generalizing s with
  | nil => exact Iff.rfl
  | cons i rest ih =>
    have hi := hiff s i hall.1 hinv hgood
    refine ⟨fun h => ⟨hi.1 h.1, ?_⟩, fun h => ⟨hi.2 h.1, ?_⟩⟩
    · exact (ih hall.2 (hstep s i hall.1 hinv) (hnext s i hall.1 hinv hgood h.1)).1 h.2
    · exact (ih hall.2 (hstep s i hall.1 hinv) (hnext s i hall.1 hinv hgood (hi.2 h.1))).2 h.2

/-- **The equivalence rule**: two conditions that agree where an invariant holds hold of the same
runs, as far as the steps keep the invariant. -/
theorem AllSteps.iff_of_inv {V D : σ → ι → Prop} {inputs : List ι} {s : σ}
    (hall : AllSteps step V s inputs) (Inv : σ → Prop)
    (hstep : ∀ s i, V s i → Inv s → Inv (step s i))
    (hiff : ∀ s i, V s i → Inv s → (C s i ↔ D s i)) (h : Inv s) :
    AllSteps step C s inputs ↔ AllSteps step D s inputs :=
  hall.iff_of_good Inv (fun _ => True) hstep (fun _ _ _ _ _ _ => trivial)
    (fun s i hv hi _ => hiff s i hv hi) h trivial

/-- All states of a run are good exactly if the first one is and every step leads to a good one. -/
theorem forall_states_iff {Good : σ → Prop} {inputs : List ι} {s : σ} :
    (∀ before after, inputs = before ++ after → Good (run step s before)) ↔
      Good s ∧ AllSteps step (fun s i => Good (step s i)) s inputs := by
  induction inputs generalizing s with
  | nil =>
    refine ⟨fun h => ⟨h [] [] rfl, trivial⟩, fun h before after heq => ?_⟩
    obtain ⟨rfl, -⟩ := List.append_eq_nil_iff.1 heq.symm
    exact h.1
  | cons i rest ih =>
    constructor
    · intro h
      have hrest := ih.1 fun before after heq => h (i :: before) after (by rw [heq]; rfl)
      exact ⟨h [] (i :: rest) rfl, hrest.1, hrest.2⟩
    · rintro ⟨hs, hi, hrest⟩ before after heq
      cases before with
      | nil => exact hs
      | cons j before =>
        obtain ⟨rfl, rfl⟩ := List.cons.inj heq
        exact ih.2 ⟨hi, hrest⟩ before after rfl

/-- **The exact condition for a safe run**: if a step from a good state leads to a good state exactly
if it meets the condition, then all states of a run are good exactly if all its steps meet it. -/
theorem forall_states_iff_allSteps (Inv Good : σ → Prop)
    (hstep : ∀ s i, Inv s → Inv (step s i))
    (hiff : ∀ s i, Inv s → Good s → (Good (step s i) ↔ C s i)) {inputs : List ι} {s : σ}
    (hinv : Inv s) (hgood : Good s) :
    (∀ before after, inputs = before ++ after → Good (run step s before)) ↔
      AllSteps step C s inputs := by
  have hall : AllSteps step (fun _ _ => True) s inputs := allSteps_of_forall fun _ _ => trivial
  rw [forall_states_iff, and_iff_right hgood]
  exact hall.iff_of_good Inv Good (fun s i _ => hstep s i) (fun _ _ _ _ _ h => h)
    (fun s i _ => hiff s i) hinv hgood

/-- A run that breaks the condition has a first step that does. -/
theorem exists_of_not_allSteps : ∀ {inputs : List ι} {s : σ}, ¬ AllSteps step C s inputs →
    ∃ before i after, inputs = before ++ i :: after ∧ ¬ C (run step s before) i
  | [], _, h => absurd trivial h
  | i :: rest, s, h => by
    by_cases hi : C s i
    · obtain ⟨before, j, after, rfl, hj⟩ :=
        exists_of_not_allSteps fun hrest : AllSteps step C (step s i) rest => h ⟨hi, hrest⟩
      exact ⟨i :: before, j, after, rfl, hj⟩
    · exact ⟨[], i, rest, rfl, hi⟩

end

end HoldemPlatform.Lib.Run
