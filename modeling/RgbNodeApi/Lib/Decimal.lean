import Mathlib.Tactic.Ring

/-!
# Decimal numbers of a bounded type

`from_str` of the unsigned integers: an optional plus sign, then digits, with an
error as soon as the number leaves the type.
-/
namespace Decimal

inductive ParseIntError where
  | empty | invalidDigit | posOverflow
  deriving DecidableEq, Repr

def ParseIntError.display : ParseIntError → String
  | .empty => "cannot parse integer from empty string"
  | .invalidDigit => "invalid digit found in string"
  | .posOverflow => "number too large to fit in target type"

/-- The number read so far, extended by one character. -/
def extend (bound acc : Nat) (c : Char) : Except ParseIntError Nat :=
  if c.isDigit then
    let next := 10 * acc + (c.toNat - '0'.toNat)
    if next < bound then .ok next else .error .posOverflow
  else .error .invalidDigit

/-- Read a number below `bound`. -/
def parse (bound : Nat) : List Char → Except ParseIntError Nat
  | [] => .error .empty
  | ['+'] => .error .invalidDigit
  | '+' :: digits => digits.foldlM (extend bound) 0
  | digits => digits.foldlM (extend bound) 0

def parseU64 (digits : List Char) : Except ParseIntError UInt64 :=
  (parse (2 ^ 64) digits).map UInt64.ofNat

/-- The number a string of digits denotes, of any length. -/
def number (digits : List Char) : Nat := Nat.ofDigitChars 10 digits 0

theorem le_ofDigitChars (digits : List Char) (acc : Nat) :
    acc ≤ Nat.ofDigitChars 10 digits acc := by
  induction digits generalizing acc with
  | nil => exact Nat.le_of_eq Nat.ofDigitChars_nil.symm
  | cons c rest ih =>
    rw [Nat.ofDigitChars_cons]
    have hrest := ih (10 * acc + (c.toNat - '0'.toNat))
    omega

/-- A prefix that leaves the type is never repaired by the digits after it. -/
theorem foldlM_extend {bound : Nat} (digits : List Char) (acc : Nat)
    (hdigits : ∀ c ∈ digits, c.isDigit = true) (hacc : acc < bound) :
    digits.foldlM (extend bound) acc =
      if Nat.ofDigitChars 10 digits acc < bound then .ok (Nat.ofDigitChars 10 digits acc)
      else .error .posOverflow := by
  induction digits generalizing acc with
  | nil =>
    rw [Nat.ofDigitChars_nil, if_pos hacc]
    rfl
  | cons c rest ih =>
    have hc : c.isDigit = true := hdigits c (by simp)
    have hrest : ∀ d ∈ rest, d.isDigit = true := fun d hd => hdigits d (by simp [hd])
    rw [List.foldlM_cons, Nat.ofDigitChars_cons]
    simp only [extend, hc, if_true]
    by_cases hnext : 10 * acc + (c.toNat - '0'.toNat) < bound
    · rw [if_pos hnext]
      exact ih _ hrest hnext
    · rw [if_neg hnext]
      have hle := le_ofDigitChars rest (10 * acc + (c.toNat - '0'.toNat))
      rw [if_neg (by omega)]
      rfl

theorem not_isDigit_plus : ¬ ('+').isDigit = true := by decide

theorem parse_eq_foldlM {bound : Nat} {digits : List Char} (hne : digits ≠ [])
    (hdigits : ∀ c ∈ digits, c.isDigit = true) :
    parse bound digits = digits.foldlM (extend bound) 0 := by
  unfold parse
  split
  · exact absurd rfl hne
  · exact absurd (hdigits '+' (by simp)) not_isDigit_plus
  · exact absurd (hdigits '+' (by simp)) not_isDigit_plus
  · rfl

theorem parse_digits {bound : Nat} {digits : List Char} (hbound : 0 < bound)
    (hne : digits ≠ []) (hdigits : ∀ c ∈ digits, c.isDigit = true) :
    parse bound digits =
      if number digits < bound then .ok (number digits) else .error .posOverflow := by
  rw [parse_eq_foldlM hne hdigits, foldlM_extend digits 0 hdigits hbound]
  rfl

theorem parseU64_digits {digits : List Char} (hne : digits ≠ [])
    (hdigits : ∀ c ∈ digits, c.isDigit = true) :
    parseU64 digits =
      if number digits < 2 ^ 64 then .ok (UInt64.ofNat (number digits))
      else .error .posOverflow := by
  rw [parseU64, parse_digits (Nat.two_pow_pos 64) hne hdigits]
  split <;> rfl

/-- What is printed for a number denotes it. -/
theorem number_toList_toString (n : Nat) : number (toString n).toList = n := by
  rw [Nat.toString_eq_repr, Nat.toList_repr]
  exact Nat.ofDigitChars_ten_toDigits

theorem toString_ne_nil (n : Nat) : (toString n).toList ≠ [] := by
  rw [Nat.toString_eq_repr, Nat.toList_repr]
  exact Nat.toDigits_ne_nil

theorem isDigit_of_mem_toString {n : Nat} {c : Char} (h : c ∈ (toString n).toList) :
    c.isDigit = true := by
  rw [Nat.toString_eq_repr, Nat.toList_repr] at h
  exact Nat.isDigit_of_mem_toDigits (by decide) (by decide) h

theorem all_isDigit_of_foldlM {bound : Nat} {digits : List Char} {acc n : Nat}
    (h : digits.foldlM (extend bound) acc = .ok n) : ∀ c ∈ digits, c.isDigit = true := by
  induction digits generalizing acc with
  | nil => simp
  | cons c rest ih =>
    rw [List.foldlM_cons] at h
    cases hc : c.isDigit with
    | false => simp [extend, hc, bind, Except.bind] at h
    | true =>
      cases hnext : extend bound acc c with
      | error e => simp [hnext, bind, Except.bind] at h
      | ok m =>
        rw [hnext] at h
        intro d hd
        obtain rfl | hd := List.mem_cons.mp hd
        · exact hc
        · exact ih h d hd

/-- Digits for the number, after a plus sign or without. -/
def Denotes (l : List Char) (n : Nat) : Prop :=
  ∃ digits, (l = digits ∨ l = '+' :: digits) ∧ digits ≠ [] ∧
    (∀ c ∈ digits, c.isDigit = true) ∧ number digits = n

theorem denotes_toString (n : Nat) : Denotes (toString n).toList n :=
  ⟨_, .inl rfl, toString_ne_nil n, fun _ hc => isDigit_of_mem_toString hc,
    number_toList_toString n⟩

theorem denotes_iff_of_digits {digits : List Char} (hne : digits ≠ []) {n : Nat}
    (hplus : ∀ rest, digits ≠ '+' :: rest) :
    Denotes digits n ↔ (∀ c ∈ digits, c.isDigit = true) ∧ number digits = n := by
  constructor
  · rintro ⟨digits', hl | hl, -, h⟩
    · exact hl ▸ h
    · exact absurd hl (hplus digits')
  · exact fun h => ⟨digits, .inl rfl, hne, h⟩

/-- A plus sign is not a digit. -/
theorem denotes_plus_iff {rest : List Char} {n : Nat} :
    Denotes ('+' :: rest) n ↔
      rest ≠ [] ∧ (∀ c ∈ rest, c.isDigit = true) ∧ number rest = n := by
  constructor
  · rintro ⟨digits, hl | hl, hne, hall, hn⟩
    · exact absurd (hall '+' (hl ▸ List.mem_cons_self)) not_isDigit_plus
    · cases hl
      exact ⟨hne, hall, hn⟩
  · rintro ⟨hne, h⟩
    exact ⟨rest, .inr rfl, hne, h⟩

theorem foldlM_extend_eq_ok_iff {bound : Nat} (hbound : 0 < bound) {digits : List Char} {n : Nat} :
    digits.foldlM (extend bound) 0 = .ok n ↔
      ((∀ c ∈ digits, c.isDigit = true) ∧ number digits = n) ∧ n < bound := by
  constructor
  · intro h
    have hall := all_isDigit_of_foldlM h
    rw [foldlM_extend digits 0 hall hbound] at h
    split at h
    · rename_i hlt
      cases h
      exact ⟨⟨hall, rfl⟩, hlt⟩
    · cases h
  · rintro ⟨⟨hall, rfl⟩, hlt⟩
    rw [foldlM_extend digits 0 hall hbound]
    exact if_pos hlt

/-- Exactly the numbers below the bound are read. -/
theorem parse_eq_ok_iff {bound : Nat} (hbound : 0 < bound) {l : List Char} {n : Nat} :
    parse bound l = .ok n ↔ Denotes l n ∧ n < bound := by
  unfold parse
  split
  · refine ⟨nofun, ?_⟩
    rintro ⟨⟨digits, hl | hl, hne, -⟩, -⟩
    · exact absurd hl.symm hne
    · cases hl
  · refine ⟨nofun, fun h => ?_⟩
    exact absurd rfl (denotes_plus_iff.mp h.1).1
  · rename_i rest hrest
    have hne : rest ≠ [] := fun h => hrest (by rw [h])
    rw [foldlM_extend_eq_ok_iff hbound, denotes_plus_iff]
    simp only [ne_eq, hne, not_false_eq_true, true_and]
  · rename_i hnil hone hmany
    rw [foldlM_extend_eq_ok_iff hbound, denotes_iff_of_digits hnil hmany]

end Decimal
