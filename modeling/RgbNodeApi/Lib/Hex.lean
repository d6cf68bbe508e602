import Mathlib.Data.List.Basic
import Mathlib.Tactic.IntervalCases

/-!
# Hexadecimal text

Bytes written with two digits each, read back digit by digit, and strings of
digits as numbers. Writing uses lower case, reading accepts either case.
-/
namespace Hex

def digit (n : Nat) : Char := Char.ofNat (if n < 10 then 48 + n else 87 + n)

def isDigit (c : Char) : Bool :=
  (48 ≤ c.toNat && c.toNat ≤ 57) || (65 ≤ c.toNat && c.toNat ≤ 70) ||
    (97 ≤ c.toNat && c.toNat ≤ 102)

def value (c : Char) : Option Nat :=
  if 48 ≤ c.toNat ∧ c.toNat ≤ 57 then some (c.toNat - 48)
  else if 65 ≤ c.toNat ∧ c.toNat ≤ 70 then some (c.toNat - 55)
  else if 97 ≤ c.toNat ∧ c.toNat ≤ 102 then some (c.toNat - 87)
  else none

theorem value_digit (n : Nat) (h : n < 16) : value (digit n) = some n := by
  interval_cases n <;> decide

def byteDigits (b : UInt8) : List Char := [digit (b.toNat / 16), digit (b.toNat % 16)]

def encode (bytes : List UInt8) : String := String.ofList (bytes.flatMap byteDigits)

def decodeDigits : List Char → Option (List UInt8)
  | [] => some []
  | [_] => none
  | a :: b :: rest => do
    let high ← value a
    let low ← value b
    let bytes ← decodeDigits rest
    pure ((16 * high + low).toUInt8 :: bytes)

def decode (s : String) : Option (List UInt8) := decodeDigits s.toList

theorem decodeDigits_byteDigits (bytes : List UInt8) :
    decodeDigits (bytes.flatMap byteDigits) = some bytes := by
  induction bytes with
  | nil => rfl
  | cons b rest ih =>
    have hb : b.toNat < 256 := b.toNat_lt
    have hhigh := value_digit (b.toNat / 16) (by omega)
    have hlow := value_digit (b.toNat % 16) (by omega)
    have hbyte : (16 * (b.toNat / 16) + b.toNat % 16).toUInt8 = b := by
      rw [show 16 * (b.toNat / 16) + b.toNat % 16 = b.toNat by omega]
      exact UInt8.ofNat_toNat
    simp only [List.flatMap_cons, byteDigits, List.cons_append, List.nil_append, decodeDigits,
      hhigh, hlow, ih, Option.bind_eq_bind, Option.bind_some, Option.pure_def, hbyte]

/-- Text that has each byte's two digits reads back as the bytes. -/
theorem decode_of_digits {s : String} {bytes : List UInt8}
    (h : s.toList = bytes.flatMap byteDigits) : decode s = some bytes := by
  rw [decode, h, decodeDigits_byteDigits]

theorem toList_encode (bytes : List UInt8) : (encode bytes).toList = bytes.flatMap byteDigits := by
  simp [encode]

/-- Every two digits make a byte. -/
theorem length_of_decodeDigits {digits : List Char} {bytes : List UInt8}
    (h : decodeDigits digits = some bytes) : digits.length = 2 * bytes.length := by
  induction digits using decodeDigits.induct generalizing bytes with
  | case1 =>
    cases h
    rfl
  | case2 => cases h
  | case3 a b rest ih =>
    simp only [decodeDigits, Option.bind_eq_bind, Option.bind_eq_some_iff] at h
    obtain ⟨high, -, low, -, decoded, hdecoded, h⟩ := h
    cases h
    simp only [List.length_cons, ih hdecoded]
    omega

theorem length_encode (bytes : List UInt8) : (encode bytes).toList.length = 2 * bytes.length :=
  length_of_decodeDigits (by rw [toList_encode, decodeDigits_byteDigits])

theorem isDigit_digit {n : Nat} (h : n < 16) : isDigit (digit n) = true := by
  interval_cases n <;> decide

theorem isDigit_of_mem_encode {bytes : List UInt8} {c : Char} (h : c ∈ (encode bytes).toList) :
    isDigit c = true := by
  rw [toList_encode, List.mem_flatMap] at h
  obtain ⟨b, -, hc⟩ := h
  have hb : b.toNat < 256 := b.toNat_lt
  simp only [byteDigits, List.mem_cons, List.not_mem_nil, or_false] at hc
  obtain rfl | rfl := hc
  · exact isDigit_digit (by omega)
  · exact isDigit_digit (by omega)

/-- A digit's character is neither a dot nor a slash. -/
theorem isDigit_ne {c : Char} (h : isDigit c = true) : c ≠ '.' ∧ c ≠ '/' := by
  constructor
  · rintro rfl
    exact absurd h (by decide)
  · rintro rfl
    exact absurd h (by decide)

/-- The number a string of digits stands for. -/
def number (s : String) : Option Nat :=
  (s.toList.mapM value).map fun digits => digits.foldl (fun n d => 16 * n + d) 0

end Hex
