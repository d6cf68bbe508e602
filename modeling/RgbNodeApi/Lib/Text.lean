import Mathlib.Data.List.DropRight

/-!
# Text as the standard library of the source sees it

White space is the Unicode `White_Space` property, lower case is ASCII only. A
byte of an encoded string that is not ASCII comes from a character that is not.
-/
namespace Text

def isWhitespace (c : Char) : Bool :=
  let n := c.toNat
  (9 ≤ n && n ≤ 13) || n == 32 || n == 0x85 || n == 0xA0 || n == 0x1680 ||
    (0x2000 ≤ n && n ≤ 0x200A) || n == 0x2028 || n == 0x2029 || n == 0x202F ||
    n == 0x205F || n == 0x3000

def trim (s : String) : String :=
  String.ofList ((s.toList.dropWhile isWhitespace).rdropWhile isWhitespace)

theorem toList_trim (s : String) :
    (trim s).toList = (s.toList.dropWhile isWhitespace).rdropWhile isWhitespace :=
  String.toList_ofList

theorem getLast_trim {s : String} (h : (trim s).toList ≠ []) :
    ¬ isWhitespace ((trim s).toList.getLast h) = true := by
  simp only [toList_trim] at h ⊢
  exact List.rdropWhile_last_not isWhitespace _ h

/-- Only the front is trimmed from text with no white space at its end. -/
theorem trim_of_getLast {l : List Char}
    (h : ∀ hl : l ≠ [], ¬ isWhitespace (l.getLast hl) = true) :
    trim (String.ofList l) = String.ofList (l.dropWhile isWhitespace) := by
  rw [trim, String.toList_ofList, List.rdropWhile_eq_self_iff.mpr]
  intro hne
  have hsuffix := List.dropWhile_suffix isWhitespace (l := l)
  rw [hsuffix.getLast hne]
  exact h _

theorem not_isDigit_of_isWhitespace {c : Char} (h : isWhitespace c = true) :
    ¬ c.isDigit = true := by
  intro hdigit
  have hlow : 48 ≤ c.toNat := (Char.isDigit_iff_toNat.mp hdigit).1
  have hhigh : c.toNat ≤ 57 := (Char.isDigit_iff_toNat.mp hdigit).2
  simp only [isWhitespace, Bool.or_eq_true, Bool.and_eq_true, decide_eq_true_eq,
    beq_iff_eq] at h
  omega

/-- A run of characters of one kind ends at the first of another. -/
theorem takeWhile_append_stop {p : Char → Bool} {a b : List Char} (ha : ∀ c ∈ a, p c = true)
    (hb : ∀ c ∈ b.head?, ¬ p c = true) : (a ++ b).takeWhile p = a := by
  rw [List.takeWhile_append_of_pos ha]
  cases b with
  | nil => simp
  | cons c rest => rw [List.takeWhile_cons_of_neg (hb c rfl), List.append_nil]

theorem dropWhile_append_stop {p : Char → Bool} {a b : List Char} (ha : ∀ c ∈ a, p c = true)
    (hb : ∀ c ∈ b.head?, ¬ p c = true) : (a ++ b).dropWhile p = b := by
  rw [List.dropWhile_append_of_pos ha]
  cases b with
  | nil => rfl
  | cons c rest => rw [List.dropWhile_cons_of_neg (hb c rfl)]

def toAsciiLowercase (s : String) : String := String.ofList (s.toList.map Char.toLower)

/-- The UTF-8 bytes of a string. -/
def bytes (s : String) : List UInt8 := s.toList.flatMap String.utf8EncodeChar

theorem high_or (x : UInt8) : 128 ≤ x ||| 128 := by
  rw [UInt8.le_iff_toNat_le, UInt8.toNat_or]
  exact Nat.right_le_or

/-- A character that takes several bytes has one outside ASCII. -/
theorem high_of_utf8Size {c : Char} (h : c.utf8Size ≠ 1) :
    ∃ b ∈ String.utf8EncodeChar c, 128 ≤ b := by
  obtain h₁ | h₂ | h₃ | h₄ := c.utf8Size_eq
  · exact absurd h₁ h
  · rw [String.utf8EncodeChar_eq_cons_cons h₂]
    exact ⟨_, by simp, high_or (c.val.toUInt8 &&& 0x3f)⟩
  · rw [String.utf8EncodeChar_eq_cons_cons_cons h₃]
    exact ⟨_, by simp, high_or (c.val.toUInt8 &&& 0x3f)⟩
  · rw [String.utf8EncodeChar_eq_cons_cons_cons_cons h₄]
    exact ⟨_, by simp, high_or (c.val.toUInt8 &&& 0x3f)⟩

/-- Text of one-byte characters has one byte for each of them. -/
theorem bytes_of_utf8Size (s : String) (h : ∀ c ∈ s.toList, c.utf8Size = 1) :
    bytes s = s.toList.map (·.val.toUInt8) := by
  unfold bytes
  generalize s.toList = l at *
  induction l with
  | nil => rfl
  | cons c rest ih =>
    have hc := String.utf8EncodeChar_eq_singleton (h c (by simp))
    have hrest := ih fun d hd => h d (by simp [hd])
    simp [List.flatMap_cons, hc, hrest]

/-- ASCII bytes come from one-byte characters. -/
theorem utf8Size_of_ascii {s : String} (h : ∀ b ∈ bytes s, b < 128) {c : Char}
    (hc : c ∈ s.toList) : c.utf8Size = 1 := by
  by_contra hs
  obtain ⟨b, hb, hge⟩ := high_of_utf8Size hs
  have hlt := h b (List.mem_flatMap.mpr ⟨c, hc, hb⟩)
  exact absurd hlt (UInt8.not_lt.mpr hge)

theorem utf8Size_of_lt {c : Char} (h : c.toNat < 128) : c.utf8Size = 1 := by
  rw [Char.utf8Size_eq_one_iff, UInt32.le_iff_toNat_le]
  exact Nat.le_of_lt_succ h

end Text
