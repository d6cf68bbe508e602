import Mathlib.Data.Set.Lattice
import Mathlib.Order.CompletePartialOrder
import Mathlib.Order.Interval.Set.Basic

/-!
# Equal windows of the natural numbers

The indices cut into windows of one length, numbered from zero.
-/
namespace Windows

/-- The indices a request for `length` records from `start` on covers. -/
def window (length start : Nat) : Set Nat := Set.Ico start (start + length)

variable {length : Nat}

theorem mem_window {start i : Nat} :
    i ∈ window length start ↔ start ≤ i ∧ i < start + length := Iff.rfl

/-- The number of the window an index is in is its quotient. -/
theorem mem_window_mul (h : 0 < length) {n i : Nat} :
    i ∈ window length (n * length) ↔ i / length = n := by
  rw [mem_window, Nat.div_eq_iff h]
  omega

theorem window_disjoint (h : 0 < length) {n m : Nat} (hne : n ≠ m) :
    Disjoint (window length (n * length)) (window length (m * length)) := by
  rw [Set.disjoint_left]
  intro i hn hm
  rw [mem_window_mul h] at hn hm
  exact hne (hn.symm.trans hm)

/-- The windows up to `last` cover the indices below their common end once. -/
theorem existsUnique_window (h : 0 < length) {last i : Nat} (hi : i < (last + 1) * length) :
    ∃! n, n ≤ last ∧ i ∈ window length (n * length) := by
  refine ⟨i / length, ⟨?_, (mem_window_mul h).mpr rfl⟩, ?_⟩
  · exact Nat.lt_succ_iff.mp ((Nat.div_lt_iff_lt_mul h).mpr hi)
  · rintro n ⟨-, hn⟩
    exact ((mem_window_mul h).mp hn).symm

/-- Indices are left after a window where it ends before the total. -/
theorem beyond_window {start total : Nat} :
    (∃ i, start + length ≤ i ∧ i < total) ↔ start + length < total := by
  constructor
  · rintro ⟨i, hle, hlt⟩
    exact Nat.lt_of_le_of_lt hle hlt
  · intro h
    exact ⟨start + length, Nat.le_refl _, h⟩

end Windows
