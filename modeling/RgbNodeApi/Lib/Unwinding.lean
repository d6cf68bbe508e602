import Mathlib.Data.List.Basic

/-!
# Runs seen by one observer

A system takes actions one after the other and answers each of them. The
observer's view `R` relates states that look the same; if hidden actions do not
change the view, and visible ones change equal views equally, then a run and the
run without its hidden actions give the observer the same answers.
-/
namespace Unwinding

variable {σ α : Type} {ω : α → Type}

/-- The answers to the observed actions of a run, in order. -/
def outputs (step : σ → α → σ) (out : σ → (a : α) → ω a) (observed : α → Bool) :
    σ → List α → List (Sigma ω)
  | _, [] => []
  | s, a :: rest =>
    (if observed a then [⟨a, out s a⟩] else []) ++ outputs step out observed (step s a) rest

/-- The conditions on single steps; `I` holds in all states of the runs. -/
structure Unwinds (step : σ → α → σ) (out : σ → (a : α) → ω a) (I : σ → Prop)
    (R : σ → σ → Prop) (visible observed : α → Bool) : Prop where
  invariant : ∀ s a, I s → I (step s a)
  hidden : ∀ s t a, I s → R s t → visible a = false → R (step s a) t
  consistent : ∀ s t a, I s → I t → R s t → visible a = true → R (step s a) (step t a)
  output : ∀ s t a, I s → I t → R s t → observed a = true → out s a = out t a
  subset : ∀ a, observed a = true → visible a = true

variable {step : σ → α → σ} {out : σ → (a : α) → ω a} {I : σ → Prop} {R : σ → σ → Prop}
  {visible observed : α → Bool}

theorem Unwinds.invariant_run (h : Unwinds step out I R visible observed) (s : σ)
    (as : List α) (hs : I s) : I (as.foldl step s) := by
  induction as generalizing s with
  | nil => exact hs
  | cons a rest ih => exact ih _ (h.invariant s a hs)

/-- A run and its visible part look the same at the end. -/
theorem Unwinds.run (h : Unwinds step out I R visible observed) (s t : σ) (as : List α)
    (hs : I s) (ht : I t) (hR : R s t) :
    R (as.foldl step s) ((as.filter visible).foldl step t) := by
  induction as generalizing s t with
  | nil => exact hR
  | cons a rest ih =>
    have hs' := h.invariant s a hs
    cases hv : visible a with
    | false =>
      rw [List.filter_cons_of_neg (by simp [hv])]
      exact ih _ _ hs' ht (h.hidden s t a hs hR hv)
    | true =>
      rw [List.filter_cons_of_pos hv]
      exact ih _ _ hs' (h.invariant t a ht) (h.consistent s t a hs ht hR hv)

/-- A run and its visible part give the same observed answers. -/
theorem Unwinds.outputs_eq (h : Unwinds step out I R visible observed) (s t : σ) (as : List α)
    (hs : I s) (ht : I t) (hR : R s t) :
    outputs step out observed s as = outputs step out observed t (as.filter visible) := by
  induction as generalizing s t with
  | nil => rfl
  | cons a rest ih =>
    have hs' := h.invariant s a hs
    cases hv : visible a with
    | false =>
      have ho : observed a = false := by
        cases hob : observed a with
        | false => rfl
        | true => simpa [hv] using h.subset a hob
      rw [List.filter_cons_of_neg (by simp [hv])]
      simpa [outputs, ho] using ih _ _ hs' ht (h.hidden s t a hs hR hv)
    | true =>
      rw [List.filter_cons_of_pos hv]
      have hrest := ih _ _ hs' (h.invariant t a ht) (h.consistent s t a hs ht hR hv)
      cases hob : observed a with
      | false => simpa [outputs, hob] using hrest
      | true =>
        have hout := h.output s t a hs ht hR hob
        simp [outputs, hob, hout, hrest]

end Unwinding
