import RgbNodeApi.Lib.Decimal
import RgbNodeApi.Lib.Duration
import RgbNodeApi.Lib.Machine
import RgbNodeApi.Lib.Text

/-!
# Durations in the configuration

`duration_str`: a `Duration` as a number and one unit, and back.
-/
namespace RgbNodeApi

namespace DurationStr

open Machine Decimal

/-- A count of a unit, if there is such a unit. -/
def ofUnit (p : Profile) (num : UInt64) (unit : String) : Option (Outcome Duration) :=
  match unit with
  | "ns" => some (.value (Duration.fromNanos num))
  | "us" | "µs" => some (.value (Duration.fromMicros num))
  | "ms" => some (.value (Duration.fromMillis num))
  | "s" => some (.value (Duration.fromSecs num))
  | "m" => some (Duration.fromSecs <$> p.mul64 num 60)
  | "h" => some (Duration.fromSecs <$> p.mul64 num 3600)
  | "d" => some (Duration.fromSecs <$> p.mul64 num 86400)
  | _ => none

/-- The text is split at its first character that is no digit. `quoted` is the
`Debug` form of a string, which only the error texts show. -/
def parse (quoted : String → String) (p : Profile) (input : String) :
    Outcome (Except String Duration) :=
  let s := (Text.trim input).toList
  let num := s.takeWhile Char.isDigit
  let unit := s.dropWhile Char.isDigit
  if unit = [] then return .error s!"duration missing unit: {quoted input}"
  else if num = [] then return .error s!"duration missing number: {quoted input}"
  else
    let unit := Text.trim (String.ofList unit)
    match parseU64 num with
    | .error e => return .error s!"invalid duration number in {quoted input}: {e.display}"
    | .ok num =>
      match ofUnit p num unit with
      | some d => .ok <$> d
      | none => return .error s!"unknown duration unit {quoted unit} in {quoted input}"

/-- The coarsest unit that loses nothing. -/
def format (d : Duration) : String :=
  let secs := d.secs
  let nanos := d.nanos
  if nanos = 0 ∧ 0 < secs then
    if secs % 86400 = 0 then s!"{secs / 86400}d"
    else if secs % 3600 = 0 then s!"{secs / 3600}h"
    else if secs % 60 = 0 then s!"{secs / 60}m"
    else s!"{secs}s"
  else if nanos % 1000000 = 0 then s!"{d.asMillis}ms"
  else if nanos % 1000 = 0 then s!"{d.asMicros}us"
  else s!"{d.asNanos}ns"

/-- The units and their lengths in nanoseconds. -/
def units : List (String × Nat) :=
  [("ns", 1), ("us", 1000), ("µs", 1000), ("ms", 1000000), ("s", 1000000000),
    ("m", 60 * 1000000000), ("h", 3600 * 1000000000), ("d", 86400 * 1000000000)]

/-- The text reads as a 64-bit number of a unit that lasts `scale` nanoseconds. -/
def Reads (text : String) (n scale : Nat) : Prop :=
  ∃ digits space unit, (Text.trim text).toList = digits ++ space ++ String.toList unit ∧
    digits ≠ [] ∧ (∀ c ∈ digits, c.isDigit = true) ∧
    (∀ c ∈ space, Text.isWhitespace c = true) ∧ (unit, scale) ∈ units ∧
    number digits = n ∧ n < 2 ^ 64

/-- What the grammar says a text stands for. -/
def Denotes (text : String) (d : Duration) : Prop :=
  ∃ n scale, Reads text n scale ∧ d.asNanos = n * scale

/-- A 64-bit number of minutes, hours or days whose seconds do not fit in 64 bits. -/
def TooLong (text : String) : Prop :=
  ∃ n scale, Reads text n scale ∧ 2 ^ 64 * 1000000000 ≤ n * scale

variable (quoted : String → String) (p : Profile)

/-! ## Units -/

theorem unit_ends : ∀ u ∈ units, String.toList u.1 ≠ [] ∧
    ((String.toList u.1).head?.all fun c => !c.isDigit && !Text.isWhitespace c) = true ∧
    ((String.toList u.1).getLast?.all fun c => !Text.isWhitespace c) = true := by
  decide

theorem unit_text {unit : String} {scale : Nat} (h : (unit, scale) ∈ units) :
    unit.toList ≠ [] ∧
    (∀ c ∈ unit.toList.head?, ¬ c.isDigit = true ∧ ¬ Text.isWhitespace c = true) ∧
    ∀ hl, ¬ Text.isWhitespace (unit.toList.getLast hl) = true := by
  obtain ⟨hne, hhead, hlast⟩ := unit_ends _ h
  refine ⟨hne, ?_, ?_⟩
  · intro c hc
    rw [Option.mem_def.mp hc] at hhead
    simpa using hhead
  · intro hl
    rw [List.getLast?_eq_some_getLast hl] at hlast
    simpa using hlast

theorem ofUnit_none {num : UInt64} {unit : String} (h : ¬ ∃ scale, (unit, scale) ∈ units) :
    ofUnit p num unit = none := by
  unfold ofUnit
  split
  case h_9 => rfl
  all_goals exact absurd (by simp [units]) h

/-- An exact result, or the remainder of one that does not fit. -/
structure Scaled (o : Outcome Duration) (n scale : Nat) : Prop where
  exact_of_lt : n * scale < 2 ^ 64 * 1000000000 → ∃ d, o = .value d ∧ d.asNanos = n * scale
  wrapped : 2 ^ 64 * 1000000000 ≤ n * scale → ∀ d, o = .value d → d.nanos = 0

theorem scaled_value {d : Duration} {n scale : Nat} (h : d.asNanos = n * scale) :
    Scaled (.value d) n scale := by
  constructor
  · intro _
    exact ⟨d, rfl, h⟩
  · intro hle
    have hlt := d.asNanos_lt
    omega

theorem scaled_seconds (num factor : UInt64) :
    Scaled (Duration.fromSecs <$> p.mul64 num factor) num.toNat
      (factor.toNat * 1000000000) := by
  constructor
  · intro hlt
    rw [← Nat.mul_assoc] at hlt ⊢
    have hfits : num.toNat * factor.toNat < 2 ^ 64 := Nat.lt_of_mul_lt_mul_right hlt
    refine ⟨Duration.fromSecs (num * factor), ?_, ?_⟩
    · rw [Profile.mul64_of_lt hfits, Outcome.map_value]
    · rw [Duration.asNanos_fromSecs, toNat_mul64 hfits]
  · intro _ d hd
    cases hmul : p.mul64 num factor with
    | panic =>
      rw [hmul, Outcome.map_panic] at hd
      cases hd
    | value product =>
      rw [hmul, Outcome.map_value] at hd
      cases hd
      exact Duration.nanos_fromSecs product

theorem ofUnit_some (p : Profile) (num : UInt64) {unit : String} {scale : Nat}
    (h : (unit, scale) ∈ units) :
    ∃ o, ofUnit p num unit = some o ∧ Scaled o num.toNat scale := by
  simp only [units, List.mem_cons, Prod.mk.injEq, List.not_mem_nil, or_false] at h
  obtain ⟨rfl, rfl⟩ | ⟨rfl, rfl⟩ | ⟨rfl, rfl⟩ | ⟨rfl, rfl⟩ | ⟨rfl, rfl⟩ | ⟨rfl, rfl⟩ |
    ⟨rfl, rfl⟩ | ⟨rfl, rfl⟩ := h
  · exact ⟨_, rfl, scaled_value (Duration.asNanos_fromNanos num)⟩
  · exact ⟨_, rfl, scaled_value (Duration.asNanos_fromMicros num)⟩
  · exact ⟨_, rfl, scaled_value (Duration.asNanos_fromMicros num)⟩
  · exact ⟨_, rfl, scaled_value (Duration.asNanos_fromMillis num)⟩
  · exact ⟨_, rfl, scaled_value (Duration.asNanos_fromSecs num)⟩
  · exact ⟨_, rfl, scaled_seconds p num 60⟩
  · exact ⟨_, rfl, scaled_seconds p num 3600⟩
  · exact ⟨_, rfl, scaled_seconds p num 86400⟩

/-! ## Reading -/

/-- The two parts of the trimmed text. -/
def numPart (text : String) : List Char := (Text.trim text).toList.takeWhile Char.isDigit
def unitPart (text : String) : List Char := (Text.trim text).toList.dropWhile Char.isDigit

theorem isDigit_of_mem_numPart {text : String} {c : Char} (h : c ∈ numPart text) :
    c.isDigit = true :=
  List.mem_takeWhile_imp h

theorem unitPart_getLast (text : String) (h : unitPart text ≠ []) :
    ¬ Text.isWhitespace ((unitPart text).getLast h) = true := by
  have hsuffix : unitPart text <:+ (Text.trim text).toList := List.dropWhile_suffix _
  rw [hsuffix.getLast h]
  exact Text.getLast_trim _

/-- The unit as the match sees it. -/
def unitName (text : String) : String := Text.trim (String.ofList (unitPart text))

theorem unitName_eq (text : String) :
    unitName text = String.ofList ((unitPart text).dropWhile Text.isWhitespace) :=
  Text.trim_of_getLast (unitPart_getLast text)

/-- The split of the source is the one the grammar asks for. -/
theorem reads_iff {text : String} {n scale : Nat} :
    Reads text n scale ↔ numPart text ≠ [] ∧ unitPart text ≠ [] ∧
      number (numPart text) = n ∧ n < 2 ^ 64 ∧ (unitName text, scale) ∈ units := by
  rw [unitName_eq]
  constructor
  · rintro ⟨digits, space, unit, htext, hne, hdigits, hspace, hunit, hnumber, hlt⟩
    obtain ⟨hunit_ne, hhead, -⟩ := unit_text hunit
    have hstop : ∀ c ∈ (space ++ String.toList unit).head?, ¬ c.isDigit = true := by
      intro c hc
      cases space with
      | nil => exact (hhead c hc).1
      | cons w rest =>
        obtain rfl := Option.some.inj hc
        exact Text.not_isDigit_of_isWhitespace (hspace w (by simp))
    rw [List.append_assoc] at htext
    have hnum : numPart text = digits := by
      rw [numPart, htext, Text.takeWhile_append_stop hdigits hstop]
    have hrest : unitPart text = space ++ String.toList unit := by
      rw [unitPart, htext, Text.dropWhile_append_stop hdigits hstop]
    have hdrop : (unitPart text).dropWhile Text.isWhitespace = String.toList unit := by
      rw [hrest, Text.dropWhile_append_stop hspace fun c hc => (hhead c hc).2]
    rw [hnum, hdrop, String.ofList_toList, hrest]
    exact ⟨hne, by simp [hunit_ne], hnumber, hlt, hunit⟩
  · rintro ⟨hne, -, hnumber, hlt, hunit⟩
    refine ⟨numPart text, (unitPart text).takeWhile Text.isWhitespace, _, ?_, hne,
      fun c => isDigit_of_mem_numPart, fun c => List.mem_takeWhile_imp, hunit, hnumber, hlt⟩
    rw [String.toList_ofList, List.append_assoc, List.takeWhile_append_dropWhile]
    exact List.takeWhile_append_dropWhile.symm

theorem scale_unique : ∀ u ∈ units, ∀ v ∈ units, u.1 = v.1 → u.2 = v.2 := by
  decide

theorem reads_unique {text : String} {n scale n' scale' : Nat} (h : Reads text n scale)
    (h' : Reads text n' scale') : n = n' ∧ scale = scale' := by
  obtain ⟨-, -, hn, -, hunit⟩ := reads_iff.mp h
  obtain ⟨-, -, hn', -, hunit'⟩ := reads_iff.mp h'
  exact ⟨hn.symm.trans hn', scale_unique _ hunit _ hunit' rfl⟩

theorem parse_eq (text : String) :
    parse quoted p text =
      if unitPart text = [] then .value (.error s!"duration missing unit: {quoted text}")
      else if numPart text = [] then .value (.error s!"duration missing number: {quoted text}")
      else
        match parseU64 (numPart text) with
        | .error e => .value (.error s!"invalid duration number in {quoted text}: {e.display}")
        | .ok num =>
          match ofUnit p num (unitName text) with
          | some d => .ok <$> d
          | none => .value
              (.error s!"unknown duration unit {quoted (unitName text)} in {quoted text}") := by
  unfold unitName numPart unitPart
  simp only [parse, Outcome.pure_eq]

theorem parse_missing {text : String} (h : numPart text = [] ∨ unitPart text = []) :
    ∃ e, parse quoted p text = .value (.error e) := by
  rw [parse_eq]
  by_cases hunit : unitPart text = []
  · rw [if_pos hunit]
    exact ⟨_, rfl⟩
  · rw [if_neg hunit, if_pos (h.resolve_right hunit)]
    exact ⟨_, rfl⟩

theorem parse_split {text : String} (hnum : numPart text ≠ []) (hunit : unitPart text ≠ []) :
    parse quoted p text =
      match parseU64 (numPart text) with
      | .error e => .value (.error s!"invalid duration number in {quoted text}: {e.display}")
      | .ok num =>
        match ofUnit p num (unitName text) with
        | some d => .ok <$> d
        | none => .value
            (.error s!"unknown duration unit {quoted (unitName text)} in {quoted text}") := by
  rw [parse_eq, if_neg hunit, if_neg hnum]

theorem parseU64_numPart {text : String} (h : numPart text ≠ []) :
    parseU64 (numPart text) =
      if number (numPart text) < 2 ^ 64 then .ok (UInt64.ofNat (number (numPart text)))
      else .error .posOverflow :=
  parseU64_digits h fun _ => isDigit_of_mem_numPart

theorem parse_of_not_reads {text : String} (h : ¬ ∃ n scale, Reads text n scale) :
    ∃ e, parse quoted p text = .value (.error e) := by
  by_cases hmissing : numPart text = [] ∨ unitPart text = []
  · exact parse_missing quoted p hmissing
  obtain ⟨hnum, hunit⟩ := not_or.mp hmissing
  rw [parse_split quoted p hnum hunit, parseU64_numPart hnum]
  by_cases hlt : number (numPart text) < 2 ^ 64
  · have hnone : ofUnit p (UInt64.ofNat (number (numPart text))) (unitName text) = none := by
      apply ofUnit_none
      rintro ⟨scale, hmem⟩
      exact h ⟨_, scale, reads_iff.mpr ⟨hnum, hunit, rfl, hlt, hmem⟩⟩
    rw [if_pos hlt]
    simp only [hnone]
    exact ⟨_, rfl⟩
  · rw [if_neg hlt]
    exact ⟨_, rfl⟩

theorem parse_of_reads {text : String} {n scale : Nat} (h : Reads text n scale) :
    ∃ o, parse quoted p text = .ok <$> o ∧ Scaled o n scale := by
  obtain ⟨hnum, hunit, rfl, hlt, hmem⟩ := reads_iff.mp h
  obtain ⟨o, ho, hscaled⟩ := ofUnit_some p (UInt64.ofNat (number (numPart text))) hmem
  rw [UInt64.toNat_ofNat_of_lt' hlt] at hscaled
  refine ⟨o, ?_, hscaled⟩
  rw [parse_split quoted p hnum hunit, parseU64_numPart hnum, if_pos hlt]
  simp only [ho]

/-- The build neither panics nor wraps, and the answer is what the grammar says. -/
def ParsesExactly (quoted : String → String) (p : Profile) (text : String) : Prop :=
  ∃ r, parse quoted p text = .value r ∧ ∀ d, r = .ok d ↔ Denotes text d

/-- Parsing is exact for all texts but those whose seconds do not fit. -/
theorem parse_exact_iff (quoted : String → String) (p : Profile) (text : String) :
    ParsesExactly quoted p text ↔ ¬ TooLong text := by
  constructor
  · rintro ⟨r, hr, hiff⟩ ⟨n, scale, hreads, hle⟩
    obtain ⟨o, ho, -⟩ := parse_of_reads quoted p hreads
    cases o with
    | panic =>
      rw [ho, Outcome.map_panic] at hr
      cases hr
    | value d =>
      rw [ho, Outcome.map_value] at hr
      cases hr
      obtain ⟨n', scale', hreads', hd⟩ := (hiff d).mp rfl
      obtain ⟨rfl, rfl⟩ := reads_unique hreads hreads'
      have hlt := d.asNanos_lt
      omega
  · intro hfits
    by_cases hreads : ∃ n scale, Reads text n scale
    · obtain ⟨n, scale, hreads⟩ := hreads
      obtain ⟨o, ho, hscaled⟩ := parse_of_reads quoted p hreads
      have hlt : n * scale < 2 ^ 64 * 1000000000 := by
        by_contra hle
        exact hfits ⟨n, scale, hreads, Nat.not_lt.mp hle⟩
      obtain ⟨d, rfl, hd⟩ := hscaled.exact_of_lt hlt
      refine ⟨.ok d, ho, ?_⟩
      intro d'
      constructor
      · intro h
        cases h
        exact ⟨n, scale, hreads, hd⟩
      · rintro ⟨n', scale', hreads', hd'⟩
        obtain ⟨rfl, rfl⟩ := reads_unique hreads hreads'
        rw [Duration.ext_asNanos (hd.trans hd'.symm)]
    · obtain ⟨e, he⟩ := parse_of_not_reads quoted p hreads
      refine ⟨.error e, he, ?_⟩
      intro d
      constructor
      · intro h
        cases h
      · rintro ⟨n, scale, h, -⟩
        exact absurd ⟨n, scale, h⟩ hreads

/-- The product by 60 comes to `2 ^ 64 + 44`. -/
theorem parse_exact_fails :
    ¬ ParsesExactly id release "307445734561825861m" ∧
      parse id release "307445734561825861m" = .value (.ok (Duration.fromSecs 44)) ∧
      parse id debug "307445734561825861m" = .panic := by
  have hrun : parse id release "307445734561825861m" =
      .value (.ok (Duration.fromSecs 44)) := by decide
  refine ⟨?_, hrun, by decide⟩
  rintro ⟨r, hr, hiff⟩
  rw [hrun] at hr
  cases hr
  obtain ⟨n, scale, hreads, hd⟩ := (hiff _).mp rfl
  have hlong : Reads "307445734561825861m" 307445734561825861 (60 * 1000000000) :=
    reads_iff.mpr (by decide)
  obtain ⟨rfl, rfl⟩ := reads_unique hlong hreads
  exact absurd hd (by decide)

/-! ## Writing and reading back -/

/-- A number and a unit of the table that make up the duration. -/
structure Shown (d : Duration) (n scale : Nat) (unit : String) : Prop where
  mem : (unit, scale) ∈ units
  text : format d = toString n ++ unit
  length : n * scale = d.asNanos
  /-- No other count of a unit is below it while it does not fit. -/
  least : ∀ m u, u ∈ units → m * u.2 = d.asNanos → n ≤ m ∨ n < 2 ^ 64

theorem shown_seconds {d : Duration} (factor : UInt64) {unit : String}
    (hnanos : d.nanos = 0) (hmem : (unit, factor.toNat * 1000000000) ∈ units)
    (hdvd : d.secs % factor = 0) (htext : format d = toString (d.secs / factor) ++ unit) :
    Shown d (d.secs / factor).toNat (factor.toNat * 1000000000) unit := by
  have hmod : d.secs.toNat % factor.toNat = 0 := by
    rw [← UInt64.toNat_mod, hdvd, UInt64.toNat_zero]
  constructor
  · exact hmem
  · exact htext
  · rw [UInt64.toNat_div, ← Nat.mul_assoc, Nat.div_mul_cancel (Nat.dvd_of_mod_eq_zero hmod),
      Duration.asNanos, hnanos, Nat.add_zero]
  · intro m u _ _
    exact .inr (d.secs / factor).toNat_lt

/-- A count of a finer unit than seconds, none of the next coarser one. -/
theorem shown_count {d : Duration} {n scale : Nat} {unit : String} (hmem : (unit, scale) ∈ units)
    (htext : format d = toString n ++ unit) (hlength : n * scale = d.asNanos)
    (htable : ∀ u ∈ units, u.2 ≤ scale ∨ 1000 * scale ∣ u.2) (hpos : 0 < scale)
    (hcoarser : 1000 * scale ∣ d.asNanos → n < 2 ^ 64) : Shown d n scale unit := by
  constructor
  · exact hmem
  · exact htext
  · exact hlength
  · intro m u hu hm
    obtain hle | hdvd := htable u hu
    · left
      have hscaled : n * scale ≤ m * scale := by
        rw [hlength, ← hm]
        exact Nat.mul_le_mul_left m hle
      exact Nat.le_of_mul_le_mul_right hscaled hpos
    · right
      apply hcoarser
      rw [← hm]
      exact hdvd.mul_left m

theorem format_shown (d : Duration) : ∃ n scale unit, Shown d n scale unit := by
  have hlength : d.asNanos = d.secs.toNat * 1000000000 + d.nanos := rfl
  by_cases hsecs : d.nanos = 0 ∧ 0 < d.secs
  · by_cases hday : d.secs % 86400 = 0
    · exact ⟨_, _, "d", shown_seconds 86400 hsecs.1 (by decide) hday
        (by simp only [format, if_pos hsecs, if_pos hday]; rfl)⟩
    by_cases hhour : d.secs % 3600 = 0
    · exact ⟨_, _, "h", shown_seconds 3600 hsecs.1 (by decide) hhour
        (by simp only [format, if_pos hsecs, if_neg hday, if_pos hhour]; rfl)⟩
    by_cases hminute : d.secs % 60 = 0
    · exact ⟨_, _, "m", shown_seconds 60 hsecs.1 (by decide) hminute
        (by simp only [format, if_pos hsecs, if_neg hday, if_neg hhour, if_pos hminute]; rfl)⟩
    · refine ⟨_, _, "s", shown_seconds 1 hsecs.1 (by decide) ?_ ?_⟩
      · exact UInt64.mod_one
      · rw [UInt64.div_one]
        simp only [format, if_pos hsecs, if_neg hday, if_neg hhour, if_neg hminute]
        rfl
  by_cases hmillis : d.nanos % 1000000 = 0
  · refine ⟨d.asMillis, 1000000, "ms", shown_count (by decide) ?_ ?_ (by decide) (by decide) ?_⟩
    · simp only [format, if_neg hsecs, if_pos hmillis]
      rfl
    · rw [Duration.asMillis]
      omega
    · intro hdvd
      have hnanos : d.nanos = 0 := by
        have hlt := d.nanos_lt
        omega
      have hzero : d.secs.toNat = 0 := by
        rw [UInt64.lt_iff_toNat_lt] at hsecs
        exact Nat.eq_zero_of_not_pos fun h => hsecs ⟨hnanos, h⟩
      rw [Duration.asMillis, hzero, hnanos]
      exact Nat.two_pow_pos 64
  by_cases hmicros : d.nanos % 1000 = 0
  · refine ⟨d.asMicros, 1000, "us", shown_count (by decide) ?_ ?_ (by decide) (by decide) ?_⟩
    · simp only [format, if_neg hsecs, if_neg hmillis, if_pos hmicros]
      rfl
    · rw [Duration.asMicros]
      omega
    · intro hdvd
      omega
  · refine ⟨d.asNanos, 1, "ns", shown_count (by decide) ?_ ?_ (by decide) (by decide) ?_⟩
    · simp only [format, if_neg hsecs, if_neg hmillis, if_neg hmicros]
      rfl
    · omega
    · intro hdvd
      omega

/-- White space is neither before the digits nor after the unit. -/
theorem trim_shown {n scale : Nat} {unit : String} (h : (unit, scale) ∈ units) :
    Text.trim (toString n ++ unit) = toString n ++ unit := by
  obtain ⟨hne, -, hlast⟩ := unit_text h
  have hlist : toString n ++ unit = String.ofList ((toString n).toList ++ unit.toList) := by
    rw [← String.toList_append, String.ofList_toList]
  have hhead : ∀ c ∈ ((toString n).toList ++ unit.toList).head?,
      ¬ Text.isWhitespace c = true := by
    intro c hc hspace
    rw [List.head?_append_of_ne_nil _ (toString_ne_nil n)] at hc
    have hdigit : c ∈ (toString n).toList := List.mem_of_head? hc
    exact Text.not_isDigit_of_isWhitespace hspace (isDigit_of_mem_toString hdigit)
  have hdrop : ((toString n).toList ++ unit.toList).dropWhile Text.isWhitespace =
      (toString n).toList ++ unit.toList :=
    Text.dropWhile_append_stop (a := []) (by simp) hhead
  rw [hlist, Text.trim_of_getLast, hdrop]
  intro hl
  rw [List.getLast_append_of_ne_nil _ hne]
  exact hlast hne

theorem shown_parts {n scale : Nat} {unit : String} (h : (unit, scale) ∈ units) :
    numPart (toString n ++ unit) = (toString n).toList ∧
      unitPart (toString n ++ unit) = unit.toList := by
  obtain ⟨-, hhead, -⟩ := unit_text h
  have hdigits : ∀ c ∈ (toString n).toList, c.isDigit = true := fun _ => isDigit_of_mem_toString
  rw [numPart, unitPart, trim_shown h, String.toList_append]
  constructor
  · exact Text.takeWhile_append_stop hdigits fun c hc => (hhead c hc).1
  · exact Text.dropWhile_append_stop hdigits fun c hc => (hhead c hc).1

theorem reads_shown {n scale : Nat} {unit : String} (h : (unit, scale) ∈ units)
    (hlt : n < 2 ^ 64) : Reads (toString n ++ unit) n scale := by
  refine ⟨(toString n).toList, [], unit, ?_, toString_ne_nil n, fun _ => isDigit_of_mem_toString,
    by simp, h, number_toList_toString n, hlt⟩
  rw [trim_shown h, String.toList_append, List.append_nil]

/-- A number that is too large is an error, not another duration. -/
theorem parse_shown_of_le {n scale : Nat} {unit : String} (h : (unit, scale) ∈ units)
    (hle : 2 ^ 64 ≤ n) : ∃ e, parse quoted p (toString n ++ unit) = .value (.error e) := by
  apply parse_of_not_reads quoted p
  rintro ⟨n', scale', hreads⟩
  obtain ⟨-, -, hn, hlt, -⟩ := reads_iff.mp hreads
  rw [(shown_parts h).1, number_toList_toString] at hn
  omega

theorem parse_shown {d : Duration} {n scale : Nat} {unit : String} (h : Shown d n scale unit)
    (hlt : n < 2 ^ 64) : parse quoted p (format d) = .value (.ok d) := by
  rw [h.text]
  obtain ⟨o, ho, hscaled⟩ := parse_of_reads quoted p (reads_shown h.mem hlt)
  have hfits : n * scale < 2 ^ 64 * 1000000000 := by
    rw [h.length]
    exact d.asNanos_lt
  obtain ⟨d', rfl, hd⟩ := hscaled.exact_of_lt hfits
  rw [ho, Duration.ext_asNanos (hd.trans h.length)]
  rfl

theorem parse_format_of_count {d : Duration} {m : Nat} {u : String × Nat} (hu : u ∈ units)
    (hm : m * u.2 = d.asNanos) (hlt : m < 2 ^ 64) :
    parse quoted p (format d) = .value (.ok d) := by
  obtain ⟨n, scale, unit, h⟩ := format_shown d
  apply parse_shown quoted p h
  obtain hle | hn := h.least m u hu hm
  · exact Nat.lt_of_le_of_lt hle hlt
  · exact hn

theorem parse_format_of_seconds {d : Duration} (h : d.nanos = 0) :
    parse quoted p (format d) = .value (.ok d) := by
  have hunit : ("s", 1000000000) ∈ units := by decide
  apply parse_format_of_count quoted p hunit _ d.secs.toNat_lt
  rw [Duration.asNanos, h, Nat.add_zero]

/-- What comes back from a text is the duration itself or an error, and the duration
itself for whole seconds and for all that parsing ever returns. -/
theorem duration_str_roundtrip (quoted : String → String) (p : Profile) (d : Duration) :
    (parse quoted p (format d) = .value (.ok d) ∨
      ∃ e, parse quoted p (format d) = .value (.error e)) ∧
    (d.nanos = 0 → parse quoted p (format d) = .value (.ok d)) ∧
    ∀ text, parse quoted p text = .value (.ok d) →
      parse quoted p (format d) = parse quoted p text := by
  refine ⟨?_, parse_format_of_seconds quoted p, ?_⟩
  · obtain ⟨n, scale, unit, h⟩ := format_shown d
    by_cases hlt : n < 2 ^ 64
    · exact .inl (parse_shown quoted p h hlt)
    · right
      rw [h.text]
      exact parse_shown_of_le quoted p h.mem (Nat.not_lt.mp hlt)
  · intro text htext
    rw [htext]
    by_cases hreads : ∃ n scale, Reads text n scale
    · obtain ⟨n, scale, hreads⟩ := hreads
      obtain ⟨-, -, -, hlt, hmem⟩ := reads_iff.mp hreads
      obtain ⟨o, ho, hscaled⟩ := parse_of_reads quoted p hreads
      obtain rfl : o = .value d := by
        rw [ho] at htext
        cases o with
        | value d' =>
          cases htext
          rfl
        | panic => cases htext
      by_cases hfits : n * scale < 2 ^ 64 * 1000000000
      · obtain ⟨d', hd', hlength⟩ := hscaled.exact_of_lt hfits
        cases hd'
        exact parse_format_of_count quoted p hmem hlength.symm hlt
      · exact parse_format_of_seconds quoted p (hscaled.wrapped (Nat.not_lt.mp hfits) d rfl)
    · obtain ⟨e, he⟩ := parse_of_not_reads quoted p hreads
      rw [he] at htext
      cases htext

end DurationStr

end RgbNodeApi
