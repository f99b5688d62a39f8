import HoldemPlatform.Lib.Run

/-!
# Interleavings

Rules for machines that take turns. A forward simulation carries every run of one machine to the run of
another one that takes what its steps put out (`run_simulates`), and a run agrees with the one
that takes only some of its inputs if no other input matters (`run_filter`). And a queue in which every
element that needs a key stands after one that opens it is served in order without ever missing a key
(`Covered`).
-/

namespace HoldemPlatform.Lib.Interleaving

open HoldemPlatform.Lib.Run

section

variable {σ τ ι κ : Type} {step : σ → ι → σ} {step' : τ → κ → τ}

/-- **The simulation rule**: if every step leads from related states to related states when the other
machine takes what the step puts out, then so does every run. -/
theorem run_simulates (R : σ → τ → Prop) (out : σ → ι → List κ)
    (hstep : ∀ s t i, R s t → R (step s i) (run step' t (out s i))) (inputs : List ι) {s : σ} {t : τ}
    (h : R s t) : R (run step s inputs) (run step' t (outputs step out s inputs)) := by
  induction inputs using List.reverseRecOn with
  | nil => exact h
  | append_singleton inputs i ih =>
    rw [run_concat, outputs_concat, run_append]
    exact hstep _ _ i ih

end

section

variable {σ τ ι : Type} {step : σ → ι → σ} {step' : τ → ι → τ}

/-- **The projection rule**: if two machines stay related when both take an input that is kept and when the
first one alone takes one that is not, then a run stays related to the run of the inputs that are kept. -/
theorem run_filter (R : σ → τ → Prop) (keep : ι → Bool) (inputs : List ι)
    (hkeep : ∀ i ∈ inputs, keep i = true → ∀ s t, R s t → R (step s i) (step' t i))
    (hskip : ∀ i ∈ inputs, keep i = false → ∀ s t, R s t → R (step s i) t) {s : σ} {t : τ} (h : R s t) :
    R (run step s inputs) (run step' t (inputs.filter keep)) := by
  induction inputs generalizing s t with
  | nil => exact h
  | cons i inputs ih =>
    have hrest : ∀ {s t}, R s t → R (run step s inputs) (run step' t (inputs.filter keep)) :=
      ih (fun j hj => hkeep j (List.mem_cons_of_mem i hj)) fun j hj => hskip j (List.mem_cons_of_mem i hj)
    rw [run_cons]
    cases hi : keep i with
    | true =>
      rw [List.filter_cons_of_pos hi, run_cons]
      exact hrest (hkeep i List.mem_cons_self hi s t h)
    | false =>
      rw [List.filter_cons_of_neg (by rw [hi]; decide)]
      exact hrest (hskip i List.mem_cons_self hi s t h)

end

section

variable {α κ : Type} {opens needs : α → κ → Prop}

/-- Every element of the queue finds the keys it needs: they are in place, or an earlier element opens
them. -/
def Covered (opens needs : α → κ → Prop) : (κ → Prop) → List α → Prop
  | _, [] => True
  | inPlace, x :: queue =>
    (∀ k, needs x k → inPlace k) ∧ Covered opens needs (fun k => inPlace k ∨ opens x k) queue

theorem Covered.mono {inPlace inPlace' : κ → Prop} {queue : List α}
    (h : Covered opens needs inPlace queue) (himp : ∀ k, inPlace k → inPlace' k) :
    Covered opens needs inPlace' queue := by
  induction queue generalizing inPlace inPlace' with
  | nil => trivial
  | cons x queue ih =>
    exact ⟨fun k hk => himp k (h.1 k hk), ih h.2 fun k hk => hk.imp_left (himp k)⟩

/-- A new element may rely on everything in front of it. -/
theorem Covered.concat {inPlace : κ → Prop} {queue : List α} (h : Covered opens needs inPlace queue)
    {x : α} (hx : ∀ k, needs x k → inPlace k ∨ ∃ y ∈ queue, opens y k) :
    Covered opens needs inPlace (queue ++ [x]) := by
  induction queue generalizing inPlace with
  | nil => exact ⟨fun k hk => (hx k hk).elim id nofun, trivial⟩
  | cons y queue ih =>
    refine ⟨h.1, ih h.2 fun k hk => ?_⟩
    rcases hx k hk with hin | ⟨z, hz, hopen⟩
    · exact .inl (.inl hin)
    · rcases List.mem_cons.1 hz with rfl | hz
      · exact .inl (.inr hopen)
      · exact .inr ⟨z, hz, hopen⟩

end

end HoldemPlatform.Lib.Interleaving
