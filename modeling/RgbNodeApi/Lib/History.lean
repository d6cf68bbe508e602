import Mathlib.Data.List.Induction

/-!
# Statements about finite histories

`Since P Q l` says that some event of `l` had `P`, given the events before it,
and that every event after it had `Q`: the past-time operator a store's contents
are described with. Such statements are computed from the end of the history.
-/
namespace History

variable {α β : Type*}

/-- A list that ends in `x`, split before one of its members. -/
theorem snoc_eq_append_cons {l pre post : List α} {x y : α} (h : l ++ [x] = pre ++ y :: post) :
    (post = [] ∧ l = pre ∧ x = y) ∨ ∃ rest, post = rest ++ [x] ∧ l = pre ++ y :: rest := by
  rcases List.eq_nil_or_concat post with rfl | ⟨rest, z, rfl⟩
  · have := List.append_inj' h rfl
    exact .inl ⟨rfl, this.1, by simpa using this.2⟩
  · have h' : l ++ [x] = (pre ++ y :: rest) ++ [z] := by simpa using h
    have := List.append_inj' h' rfl
    exact .inr ⟨rest, by simpa using this.2.symm, this.1⟩

def Since (P : List α → α → Prop) (Q : α → Prop) (l : List α) : Prop :=
  ∃ pre x post, l = pre ++ x :: post ∧ P pre x ∧ ∀ y ∈ post, Q y

theorem not_since_nil (P : List α → α → Prop) (Q : α → Prop) : ¬ Since P Q [] := by
  rintro ⟨pre, x, post, h, -⟩
  simp at h

/-- The last event either is the one looked for or keeps an earlier one. -/
theorem since_snoc (P : List α → α → Prop) (Q : α → Prop) (l : List α) (x : α) :
    Since P Q (l ++ [x]) ↔ P l x ∨ (Since P Q l ∧ Q x) := by
  constructor
  · rintro ⟨pre, y, post, h, hp, hq⟩
    obtain ⟨rfl, rfl, rfl⟩ | ⟨rest, rfl, rfl⟩ := snoc_eq_append_cons h
    · exact .inl hp
    · exact .inr ⟨⟨pre, y, rest, rfl, hp, fun z hz => hq z (by simp [hz])⟩, hq x (by simp)⟩
  · rintro (hp | ⟨⟨pre, y, post, rfl, hp, hq⟩, hx⟩)
    · exact ⟨l, x, [], rfl, hp, by simp⟩
    · refine ⟨pre, y, post ++ [x], by simp, hp, ?_⟩
      intro z hz
      rcases List.mem_append.mp hz with hz | hz
      · exact hq z hz
      · simpa using (List.mem_singleton.mp hz) ▸ hx

end History
