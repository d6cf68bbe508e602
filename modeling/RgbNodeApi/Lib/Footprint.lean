import Mathlib.Data.Set.Function
import Mathlib.Data.Set.Lattice
import Mathlib.Order.CompletePartialOrder

/-!
# Footprints of state transformers

A computation over a private state and a shared store `ι → ν` has footprint `S`
when it reads and writes the store only on `S`. The predicate on the private
state is kept along the way, so a footprint may hold only for the states that
belong to one owner. Footprints compose, and two computations with disjoint
footprints do not see each other.
-/
namespace Footprint

variable {σ ι ν α β : Type}

/-- Every run keeps `I`. -/
def Preserves (I : σ → Prop) (m : StateM σ α) : Prop := ∀ s, I s → I (m.run s).2

theorem Preserves.pure (I : σ → Prop) (a : α) : Preserves I (Pure.pure a : StateM σ α) :=
  fun _ h => h

theorem Preserves.bind {I : σ → Prop} {m : StateM σ α} {k : α → StateM σ β}
    (hm : Preserves I m) (hk : ∀ a, Preserves I (k a)) : Preserves I (m >>= k) :=
  fun s h => hk _ _ (hm s h)

/-- Every run returns a value with `Q`. -/
def Returns (Q : α → Prop) (m : StateM σ α) : Prop := ∀ s, Q (m.run s).1

theorem Returns.pure {Q : α → Prop} {a : α} (h : Q a) : Returns Q (Pure.pure a : StateM σ α) :=
  fun _ => h

theorem Returns.bind {Q : β → Prop} {m : StateM σ α} {k : α → StateM σ β}
    (hk : ∀ a, Returns Q (k a)) : Returns Q (m >>= k) :=
  fun s => hk _ (m.run s).2

theorem Returns.bind_of {R : α → Prop} {Q : β → Prop} {m : StateM σ α} {k : α → StateM σ β}
    (hm : Returns R m) (hk : ∀ a, R a → Returns Q (k a)) : Returns Q (m >>= k) :=
  fun s => hk _ (hm s) (m.run s).2

/-- `m` reads and writes the store only on `S`, from private states with `P`. -/
structure Local (P : σ → Prop) (S : Set ι) (m : StateM (σ × (ι → ν)) α) : Prop where
  result : ∀ w f g, P w → Set.EqOn f g S → (m.run (w, f)).1 = (m.run (w, g)).1
  own : ∀ w f g, P w → Set.EqOn f g S → (m.run (w, f)).2.1 = (m.run (w, g)).2.1
  store : ∀ w f g, P w → Set.EqOn f g S →
    Set.EqOn (m.run (w, f)).2.2 (m.run (w, g)).2.2 S
  frame : ∀ w f, P w → Set.EqOn (m.run (w, f)).2.2 f Sᶜ
  keeps : ∀ w f, P w → P (m.run (w, f)).2.1

theorem Local.pure (P : σ → Prop) (S : Set ι) (a : α) :
    Local P S (Pure.pure a : StateM (σ × (ι → ν)) α) where
  result _ _ _ _ _ := rfl
  own _ _ _ _ _ := rfl
  store _ _ _ _ h := h
  frame _ _ _ _ _ := rfl
  keeps _ _ h := h

/-- Reading the private state only. -/
theorem Local.gets (P : σ → Prop) (S : Set ι) (φ : σ → α) :
    Local P S (fun s => (φ s.1, s) : StateM (σ × (ι → ν)) α) where
  result _ _ _ _ _ := rfl
  own _ _ _ _ _ := rfl
  store _ _ _ _ h := h
  frame _ _ _ _ _ := rfl
  keeps _ _ h := h

/-- Nothing is asked of a computation that no private state may start. -/
theorem Local.of_false {P : σ → Prop} (S : Set ι) (m : StateM (σ × (ι → ν)) α)
    (h : ∀ w, ¬ P w) : Local P S m where
  result w _ _ hw _ := absurd hw (h w)
  own w _ _ hw _ := absurd hw (h w)
  store w _ _ hw _ := absurd hw (h w)
  frame w _ hw := absurd hw (h w)
  keeps w _ hw := absurd hw (h w)

/-- A larger footprint is a weaker statement. -/
theorem Local.mono {P : σ → Prop} {S T : Set ι} {m : StateM (σ × (ι → ν)) α}
    (hm : Local P S m) (h : S ⊆ T) : Local P T m where
  result w f g hw he := hm.result w f g hw (he.mono h)
  own w f g hw he := hm.own w f g hw (he.mono h)
  store w f g hw he i hi := by
    by_cases hs : i ∈ S
    · exact hm.store w f g hw (he.mono h) hs
    · exact (hm.frame w f hw hs).trans ((he hi).trans (hm.frame w g hw hs).symm)
  frame w f hw := (hm.frame w f hw).mono (Set.compl_subset_compl.mpr h)
  keeps := hm.keeps

/-- The second computation may rely on what the first one returns. -/
theorem Local.bind {P : σ → Prop} {S : Set ι} {Q : α → Prop} {m : StateM (σ × (ι → ν)) α}
    {k : α → StateM (σ × (ι → ν)) β} (hm : Local P S m)
    (hq : ∀ w f, P w → Q (m.run (w, f)).1) (hk : ∀ a, Q a → Local P S (k a)) :
    Local P S (m >>= k) where
  result w f g hw h := by
    change ((k (m.run (w, f)).1).run (m.run (w, f)).2).1 =
      ((k (m.run (w, g)).1).run (m.run (w, g)).2).1
    rw [← hm.result w f g hw h]
    have hn := (hk _ (hq w f hw)).result _ _ _ (hm.keeps w f hw) (hm.store w f g hw h)
    rwa [Prod.mk.eta, hm.own w f g hw h, Prod.mk.eta] at hn
  own w f g hw h := by
    change ((k (m.run (w, f)).1).run (m.run (w, f)).2).2.1 =
      ((k (m.run (w, g)).1).run (m.run (w, g)).2).2.1
    rw [← hm.result w f g hw h]
    have hn := (hk _ (hq w f hw)).own _ _ _ (hm.keeps w f hw) (hm.store w f g hw h)
    rwa [Prod.mk.eta, hm.own w f g hw h, Prod.mk.eta] at hn
  store w f g hw h := by
    change Set.EqOn ((k (m.run (w, f)).1).run (m.run (w, f)).2).2.2
      ((k (m.run (w, g)).1).run (m.run (w, g)).2).2.2 S
    rw [← hm.result w f g hw h]
    have hn := (hk _ (hq w f hw)).store _ _ _ (hm.keeps w f hw) (hm.store w f g hw h)
    rwa [Prod.mk.eta, hm.own w f g hw h, Prod.mk.eta] at hn
  frame w f hw := by
    have h₁ := (hk _ (hq w f hw)).frame _ (m.run (w, f)).2.2 (hm.keeps w f hw)
    exact h₁.trans (hm.frame w f hw)
  keeps w f hw := (hk _ (hq w f hw)).keeps _ (m.run (w, f)).2.2 (hm.keeps w f hw)

/-- A store action that works on one place only. -/
theorem Local.writeAt (P : σ → Prop) {S : Set ι} {i : ι} (hi : i ∈ S)
    (φ : (ι → ν) → ι → ν) (hread : ∀ f g, f i = g i → φ f i = φ g i)
    (hother : ∀ f j, j ≠ i → φ f j = f j) :
    Local P S (fun s => ((), (s.1, φ s.2)) : StateM (σ × (ι → ν)) Unit) where
  result _ _ _ _ _ := rfl
  own _ _ _ _ _ := rfl
  store _ f g _ h j hj := by
    by_cases he : j = i
    · subst he; exact hread f g (h hi)
    · exact (hother f j he).trans ((h hj).trans (hother g j he).symm)
  frame _ f _ j hj := hother f j (fun he => hj (he ▸ hi))
  keeps _ _ h := h

/-- What one owner does is invisible on a disjoint footprint. -/
theorem Local.untouched {P : σ → Prop} {S T : Set ι} {m : StateM (σ × (ι → ν)) α}
    (hm : Local P S m) (hd : Disjoint S T) (w : σ) (f : ι → ν) (hw : P w) :
    Set.EqOn (m.run (w, f)).2.2 f T :=
  (hm.frame w f hw).mono (Set.disjoint_right.mp hd)

/-- A place outside the footprint keeps its value. -/
theorem Local.preserves {P : σ → Prop} {S : Set ι} {m : StateM (σ × (ι → ν)) α}
    (hm : Local P S m) {i : ι} (hi : i ∉ S) (v : ν) :
    Preserves (fun s => P s.1 ∧ s.2 i = v) m := by
  rintro ⟨w, f⟩ ⟨hw, hv⟩
  exact ⟨hm.keeps w f hw, (hm.frame w f hw hi).trans hv⟩

end Footprint
