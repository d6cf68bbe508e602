import RgbNodeApi.Pages
import RgbNodeApi.Lib.Records
import RgbNodeApi.Lib.Decimal
import RgbNodeApi.Lib.Text

/-!
# Values as text

The forms of numbers in JSON, and the parameters of a list: what is read as them, in
which spellings, and that what is written is read back.
-/
namespace RgbNodeApi

open Json

/-- `from_str` of the unsigned integers below `bound`. -/
def parseUint (bound : Nat) (s : String) : Option Nat := (Decimal.parse bound s.toList).toOption

theorem parseUint_iff {bound : Nat} (hbound : 0 < bound) {s : String} {n : Nat} :
    parseUint bound s = some n ↔ Decimal.Denotes s.toList n ∧ n < bound := by
  have hok : parseUint bound s = some n ↔ Decimal.parse bound s.toList = .ok n := by
    unfold parseUint
    cases Decimal.parse bound s.toList <;> simp [Except.toOption]
  rw [hok, Decimal.parse_eq_ok_iff hbound]

/-- `number_from_string` at an unsigned integer type. -/
def numberFromString (bound : Nat) (hbound : 0 < bound) : Codec Nat :=
  .text toString (parseUint bound) fun _ n h =>
    (parseUint_iff hbound).mpr ⟨Decimal.denotes_toString n, ((parseUint_iff hbound).mp h).2⟩

theorem numberFromString_iff {bound : Nat} (hbound : 0 < bound) (v : Value) (n : Nat) :
    (numberFromString bound hbound).decode v = some n ↔
      ∃ s, v = .str s ∧ Decimal.Denotes s.toList n ∧ n < bound := by
  simp only [numberFromString, Codec.text_decode_iff, parseUint_iff hbound]

/-! ## The parameters of a list -/

inductive OrderBy where
  | asc | desc
  deriving DecidableEq, Repr

namespace OrderBy

def fromStr (s : String) : Option OrderBy :=
  let lower := Text.toAsciiLowercase s
  if lower = "asc" then some asc else if lower = "desc" then some desc else none

def display : OrderBy → String
  | asc => "asc"
  | desc => "desc"

/-- The two names of each order in JSON. -/
def names : OrderBy → List String
  | asc => ["asc", "ASC"]
  | desc => ["desc", "DESC"]

def ofName (s : String) : Option OrderBy :=
  if s ∈ asc.names then some asc else if s ∈ desc.names then some desc else none

theorem ofName_iff {s : String} {o : OrderBy} : ofName s = some o ↔ s ∈ o.names := by
  have hdisj : ∀ s ∈ asc.names, s ∉ desc.names := by decide
  unfold ofName
  by_cases hasc : s ∈ asc.names
  · cases o <;> simp [hasc, hdisj s hasc]
  · cases o <;> simp [hasc]

def codec : Codec OrderBy where
  decode v := (variantName v).bind ofName
  encode o := .str o.display
  Valid _ := True
  decode_encode o _ := by cases o <;> decide
  valid _ _ _ := trivial

theorem decode_iff (v : Value) (o : OrderBy) :
    codec.decode v = some o ↔ ∃ s ∈ o.names, v = .str s ∨ v = .obj [(s, .null)] := by
  simp only [codec, Option.bind_eq_some_iff, variantName_iff, ofName_iff]
  exact exists_congr fun s => and_comm

/-- The letter case makes no difference to `from_str`. -/
theorem fromStr_iff {s : String} {o : OrderBy} :
    fromStr s = some o ↔ Text.toAsciiLowercase s = o.display := by
  unfold fromStr
  by_cases hasc : Text.toAsciiLowercase s = "asc"
  · cases o <;> simp [hasc, display]
  · cases o <;> simp [hasc, display]

/-- JSON knows two of these spellings. -/
theorem fromStr_of_mem_names {s : String} {o : OrderBy} (h : s ∈ o.names) : fromStr s = some o := by
  rw [fromStr_iff]
  revert s
  cases o <;> decide

end OrderBy

/-- What a parameter is spelled as: nothing, a number or the text of one. -/
def Shows : Value → Option UInt32 → Prop
  | .null, none => True
  | .int z, some n => z = n.toNat
  | .str s, some n => Decimal.Denotes s.toList n.toNat
  | _, _ => False

def numberOrString : Codec (Option UInt32) where
  decode
    | .null => some none
    | .int z => if 0 ≤ z ∧ z.toNat < 2 ^ 32 then some (some (UInt32.ofNat z.toNat)) else none
    | .str s => (parseUint (2 ^ 32) s).map fun n => some (UInt32.ofNat n)
    | _ => none
  encode
    | none => .null
    | some n => .int n.toNat
  Valid _ := True
  decode_encode o _ := by
    cases o with
    | none => rfl
    | some n =>
      have hlt : n.toNat < 2 ^ 32 := n.toNat_lt
      simp only [Int.natCast_nonneg, Int.toNat_natCast, hlt, and_self, if_true,
        UInt32.ofNat_toNat]
  valid _ _ _ := trivial

/-- A number is read in each of its spellings, and nothing else is. -/
theorem numberOrString_iff (v : Value) (o : Option UInt32) :
    numberOrString.decode v = some o ↔ Shows v o := by
  have hofNat : ∀ {k : Nat} {n : UInt32}, k < 2 ^ 32 → (UInt32.ofNat k = n ↔ k = n.toNat) := by
    intro k n hk
    rw [← UInt32.toNat_inj, UInt32.toNat_ofNat_of_lt' hk]
  cases v with
  | null => cases o <;> simp [numberOrString, Shows]
  | int z =>
    cases o with
    | none => simp [numberOrString, Shows]
    | some n =>
      have hlt := n.toNat_lt
      by_cases hz : 0 ≤ z ∧ z.toNat < 2 ^ 32
      · simp only [numberOrString, hz, and_self, if_true, Option.some.injEq, hofNat hz.2, Shows]
        omega
      · simp only [numberOrString, hz, if_false, reduceCtorEq, false_iff, Shows]
        omega
  | str s =>
    cases o with
    | none => simp [numberOrString, Shows]
    | some n =>
      simp only [numberOrString, Option.map_eq_some_iff, parseUint_iff (Nat.two_pow_pos 32),
        Option.some.injEq, Shows]
      constructor
      · rintro ⟨k, ⟨hk, hlt⟩, hkn⟩
        exact (hofNat hlt).mp hkn ▸ hk
      · exact fun h => ⟨n.toNat, ⟨h, n.toNat_lt⟩, UInt32.ofNat_toNat⟩
  | _ => cases o <;> simp [numberOrString, Shows]

/-- The body is read by its fields; `order` is descending unless it is given. -/
def PageParams.record : Record (OrderBy × PageParams) where
  fields := .cons (.defaulted "order" OrderBy.codec .desc trivial) <|
    .cons (.defaulted "limit" numberOrString none trivial) <|
    .cons (.defaulted "offset" numberOrString none trivial) <|
    .cons (.defaulted "page" numberOrString none trivial) .nil
  distinct := by decide
  equiv := ⟨fun t => (t.1, ⟨t.2.1, t.2.2.1, t.2.2.2.1⟩),
    fun r => (r.1, r.2.limit, r.2.offset, r.2.page, ()), fun _ => rfl, fun _ => rfl⟩

/-- The four values in a body, where one that is left out counts as its default. -/
def PageParams.Gives : Value → (order limit offset page : Value) → Prop
  | .obj ms, order, limit, offset, page =>
    memberOr (.str "desc") "order" ms = some order ∧ memberOr .null "limit" ms = some limit ∧
      memberOr .null "offset" ms = some offset ∧ memberOr .null "page" ms = some page
  | .arr vs, order, limit, offset, page =>
    vs.length ≤ 4 ∧ vs.getD 0 (.str "desc") = order ∧ vs.getD 1 .null = limit ∧
      vs.getD 2 .null = offset ∧ vs.getD 3 .null = page
  | _, _, _, _, _ => False

/-- The four values spell the parameters. -/
def PageParams.Spelled (order limit offset page : Value) (o : OrderBy) (p : PageParams) : Prop :=
  (∃ s ∈ o.names, order = .str s ∨ order = .obj [(s, .null)]) ∧ Shows limit p.limit ∧
    Shows offset p.offset ∧ Shows page p.page

theorem PageParams.spelled_iff {order limit offset page : Value} {o : OrderBy} {p : PageParams} :
    PageParams.Spelled order limit offset page o p ↔
      OrderBy.codec.decode order = some o ∧ numberOrString.decode limit = some p.limit ∧
        numberOrString.decode offset = some p.offset ∧
        numberOrString.decode page = some p.page := by
  rw [PageParams.Spelled, OrderBy.decode_iff, numberOrString_iff, numberOrString_iff,
    numberOrString_iff]

/-- An object is read member by member. -/
theorem PageParams.decode_obj_iff (ms : List (String × Value)) (o : OrderBy) (p : PageParams) :
    PageParams.record.codec.decode (.obj ms) = some (o, p) ↔
      ∃ order limit offset page, PageParams.Gives (.obj ms) order limit offset page ∧
        PageParams.Spelled order limit offset page o p := by
  have hreads : PageParams.record.codec.decode (.obj ms) = some (o, p) ↔
      (∃ v, memberOr (.str "desc") "order" ms = some v ∧ OrderBy.codec.decode v = some o) ∧
      (∃ v, memberOr .null "limit" ms = some v ∧ numberOrString.decode v = some p.limit) ∧
      (∃ v, memberOr .null "offset" ms = some v ∧ numberOrString.decode v = some p.offset) ∧
      ∃ v, memberOr .null "page" ms = some v ∧ numberOrString.decode v = some p.page := by
    rw [Record.decode_obj_iff]
    simp only [PageParams.record, Fields.Reads, and_true]
    rw [NamedField.read_iff_memberOr rfl (.str "desc") rfl,
      NamedField.read_iff_memberOr rfl .null rfl,
      NamedField.read_iff_memberOr rfl .null rfl,
      NamedField.read_iff_memberOr rfl .null rfl]
    rfl
  simp only [hreads, PageParams.spelled_iff]
  constructor
  · rintro ⟨⟨order, ho, ho'⟩, ⟨limit, hl, hl'⟩, ⟨offset, hf, hf'⟩, page, hp, hp'⟩
    exact ⟨order, limit, offset, page, ⟨ho, hl, hf, hp⟩, ho', hl', hf', hp'⟩
  · rintro ⟨order, limit, offset, page, ⟨ho, hl, hf, hp⟩, ho', hl', hf', hp'⟩
    exact ⟨⟨order, ho, ho'⟩, ⟨limit, hl, hl'⟩, ⟨offset, hf, hf'⟩, page, hp, hp'⟩

/-- An array is read place by place. -/
theorem PageParams.decode_arr_iff (vs : List Value) (o : OrderBy) (p : PageParams) :
    PageParams.record.codec.decode (.arr vs) = some (o, p) ↔
      vs.length ≤ 4 ∧ PageParams.Spelled (vs.getD 0 (.str "desc")) (vs.getD 1 .null)
        (vs.getD 2 .null) (vs.getD 3 .null) o p := by
  have hplaces : PageParams.record.fields.readArr vs =
        some (o, p.limit, p.offset, p.page, ()) ↔
      OrderBy.codec.decode (vs.headD (.str "desc")) = some o ∧
      numberOrString.decode (vs.tail.headD .null) = some p.limit ∧
      numberOrString.decode (vs.tail.tail.headD .null) = some p.offset ∧
      numberOrString.decode (vs.tail.tail.tail.headD .null) = some p.page ∧
      vs.tail.tail.tail.tail = [] := by
    simp only [PageParams.record]
    rw [Fields.readArr_cons_iff (.str "desc") rfl, Fields.readArr_cons_iff .null rfl,
      Fields.readArr_cons_iff .null rfl, Fields.readArr_cons_iff .null rfl,
      Fields.readArr_nil_iff]
    rfl
  have hrest : vs.tail.tail.tail.tail = [] ↔ vs.length ≤ 4 := by
    rw [← List.length_eq_zero_iff]
    simp only [List.length_tail]
    omega
  rw [Record.decode_arr_iff, PageParams.spelled_iff]
  refine hplaces.trans ?_
  simp only [hrest, List.headD_eq_getD, List.getD_eq_getElem?_getD, List.getElem?_tail]
  tauto

/-- The parameters of a list are read from exactly the bodies that spell them: an object
with each member once or left out, in any order and with whatever else, or an array. -/
theorem page_params_read_iff (v : Value) (o : OrderBy) (p : PageParams) :
    PageParams.record.codec.decode v = some (o, p) ↔
      ∃ order limit offset page, PageParams.Gives v order limit offset page ∧
        PageParams.Spelled order limit offset page o p := by
  cases v with
  | obj ms => exact PageParams.decode_obj_iff ms o p
  | arr vs =>
    rw [PageParams.decode_arr_iff]
    constructor
    · rintro ⟨hlen, hspelled⟩
      exact ⟨_, _, _, _, ⟨hlen, rfl, rfl, rfl, rfl⟩, hspelled⟩
    · rintro ⟨_, _, _, _, ⟨hlen, rfl, rfl, rfl, rfl⟩, hspelled⟩
      exact ⟨hlen, hspelled⟩
  | _ =>
    constructor
    · intro h
      cases h
    · rintro ⟨_, _, _, _, hgives, -⟩
      cases hgives

example : PageParams.record.codec.decode
    (.obj [("page", .str "+2"), ("order", .obj [("ASC", .null)]), ("limit", .int 50)]) =
      some (.asc, ⟨some 50, none, some 2⟩) := by rfl

end RgbNodeApi
