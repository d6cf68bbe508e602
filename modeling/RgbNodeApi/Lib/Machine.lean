import Mathlib.Tactic.Ring

/-!
# Fixed-width arithmetic of a compiled program

An operation whose exact result fits its type gives that result. One that
overflows panics in a build with overflow checks and wraps in a build without.
-/
namespace Machine

/-- What running a piece of code comes to. -/
inductive Outcome (α : Type) where
  | value (a : α)
  | panic
  deriving DecidableEq, Repr

namespace Outcome

variable {α β : Type}

def bind : Outcome α → (α → Outcome β) → Outcome β
  | .value a, f => f a
  | .panic, _ => .panic

instance : Monad Outcome where
  pure := .value
  bind := bind

@[simp] theorem pure_eq (a : α) : (pure a : Outcome α) = .value a := rfl
@[simp] theorem value_bind (a : α) (f : α → Outcome β) : (Outcome.value a >>= f) = f a := rfl
@[simp] theorem panic_bind (f : α → Outcome β) : (Outcome.panic >>= f) = .panic := rfl

@[simp] theorem map_value (f : α → β) (a : α) : f <$> Outcome.value a = .value (f a) := rfl
@[simp] theorem map_panic (f : α → β) : f <$> (Outcome.panic : Outcome α) = .panic := rfl

end Outcome

/-- The build setting that decides what an overflow does. -/
structure Profile where
  overflowChecks : Bool
  deriving DecidableEq, Repr

def debug : Profile := ⟨true⟩
def release : Profile := ⟨false⟩

namespace Profile

variable {α : Type} (p : Profile)

/-- The result of an operation, given whether the exact one fits. -/
def arith (fits : Bool) (wrapped : α) : Outcome α :=
  if p.overflowChecks && !fits then .panic else .value wrapped

def add32 (a b : UInt32) : Outcome UInt32 :=
  p.arith (a.toNat + b.toNat < 2 ^ 32) (a + b)

def mul32 (a b : UInt32) : Outcome UInt32 :=
  p.arith (a.toNat * b.toNat < 2 ^ 32) (a * b)

def mul64 (a b : UInt64) : Outcome UInt64 :=
  p.arith (a.toNat * b.toNat < 2 ^ 64) (a * b)

@[simp] theorem arith_fits (a : α) : p.arith true a = .value a := by
  simp [arith]

/-- A build with overflow checks shows every overflow. -/
theorem arith_debug {fits : Bool} {a b : α} (h : debug.arith fits a = .value b) :
    fits = true := by
  cases fits with
  | true => rfl
  | false => exact absurd h (by simp [arith, debug])

variable {p}

theorem add32_of_lt {a b : UInt32} (h : a.toNat + b.toNat < 2 ^ 32) :
    p.add32 a b = .value (a + b) := by
  simp only [add32, h, decide_true, arith_fits]

theorem mul32_of_lt {a b : UInt32} (h : a.toNat * b.toNat < 2 ^ 32) :
    p.mul32 a b = .value (a * b) := by
  simp only [mul32, h, decide_true, arith_fits]

theorem mul64_of_lt {a b : UInt64} (h : a.toNat * b.toNat < 2 ^ 64) :
    p.mul64 a b = .value (a * b) := by
  simp only [mul64, h, decide_true, arith_fits]

end Profile

/-- Division panics on a zero divisor in every build. -/
def div32 (a b : UInt32) : Outcome UInt32 := if b = 0 then .panic else .value (a / b)

theorem div32_of_ne {a b : UInt32} (h : b ≠ 0) : div32 a b = .value (a / b) := by
  simp only [div32, h, if_false]

theorem toNat_add32 {a b : UInt32} (h : a.toNat + b.toNat < 2 ^ 32) :
    (a + b).toNat = a.toNat + b.toNat := by
  rw [UInt32.toNat_add, Nat.mod_eq_of_lt h]

theorem toNat_mul32 {a b : UInt32} (h : a.toNat * b.toNat < 2 ^ 32) :
    (a * b).toNat = a.toNat * b.toNat := by
  rw [UInt32.toNat_mul, Nat.mod_eq_of_lt h]

theorem toNat_mul64 {a b : UInt64} (h : a.toNat * b.toNat < 2 ^ 64) :
    (a * b).toNat = a.toNat * b.toNat := by
  rw [UInt64.toNat_mul, Nat.mod_eq_of_lt h]

end Machine
