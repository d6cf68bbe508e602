import RgbNodeApi.Lib.Machine
import RgbNodeApi.Lib.Windows

/-!
# Pages of a list

`PageParams::limit_offset`, which turns a request into a window of records, and
`ListResponseMeta::new`, which reports where the window lies.
-/
namespace RgbNodeApi

open Machine Windows

structure ListResponseMeta where
  page : UInt32
  limit : UInt32
  offset : UInt32
  hasMore : Bool
  totalRecords : UInt64
  deriving DecidableEq, Repr

/-- What `number_or_string` leaves of a query. -/
structure PageParams where
  limit : Option UInt32
  offset : Option UInt32
  page : Option UInt32
  deriving DecidableEq, Repr

namespace ListResponseMeta

/-- The sum is formed in 32 bits and only then widened. -/
def new (p : Profile) (limit offset : UInt32) (total : UInt64) : Outcome ListResponseMeta := do
  let page ← div32 offset (max limit 1)
  let reached ← p.add32 offset limit
  return { page, limit, offset, hasMore := reached.toUInt64 < total, totalRecords := total }

/-- The window the metadata describes, in exact arithmetic. -/
structure Describes (m : ListResponseMeta) (limit offset : UInt32) (total : UInt64) : Prop where
  page_le : m.page.toNat * max limit.toNat 1 ≤ offset.toNat
  lt_page : offset.toNat < (m.page.toNat + 1) * max limit.toNat 1
  hasMore_iff : m.hasMore = true ↔ offset.toNat + limit.toNat < total.toNat

/-- The metadata comes out right, and so does the promise that a request further
back has more records as well. -/
structure Exact (p : Profile) (limit offset : UInt32) (total : UInt64) : Prop where
  described : ∃ m, new p limit offset total = .value m ∧ m.Describes limit offset total
  antitone : ∀ m, new p limit offset total = .value m → m.hasMore = true →
    ∀ o ≤ offset, ∃ m', new p limit o total = .value m' ∧ m'.hasMore = true

variable {p : Profile} {limit offset : UInt32} {total : UInt64}

theorem toNat_max_one (limit : UInt32) : (max limit 1).toNat = max limit.toNat 1 := by
  rw [UInt32.max_def]
  split <;> rename_i h <;> rw [UInt32.le_iff_toNat_le, UInt32.toNat_one] at h
  · rw [UInt32.toNat_one]
    omega
  · omega

theorem max_one_ne_zero (limit : UInt32) : max limit 1 ≠ 0 := by
  intro h
  have hn := toNat_max_one limit
  rw [h, UInt32.toNat_zero] at hn
  omega

theorem new_eq (p : Profile) (limit offset : UInt32) (total : UInt64) :
    new p limit offset total = (p.add32 offset limit >>= fun reached => .value
      { page := offset / max limit 1
        limit
        offset
        hasMore := reached.toUInt64 < total
        totalRecords := total }) := by
  unfold new
  rw [div32_of_ne (max_one_ne_zero limit)]
  rfl

theorem new_value (p : Profile) (total : UInt64) (h : offset.toNat + limit.toNat < 2 ^ 32) :
    new p limit offset total = .value
      { page := offset / max limit 1
        limit
        offset
        hasMore := offset.toNat + limit.toNat < total.toNat
        totalRecords := total } := by
  rw [new_eq, Profile.add32_of_lt h, Outcome.value_bind]
  simp only [UInt64.lt_iff_toNat_lt, UInt32.toNat_toUInt64, toNat_add32 h]

/-- The page is the number of the window the offset lies in. -/
theorem describes_of_lt {m : ListResponseMeta} (h : offset.toNat + limit.toNat < 2 ^ 32)
    (hm : new p limit offset total = .value m) : m.Describes limit offset total := by
  rw [new_value p total h] at hm
  obtain rfl := Outcome.value.inj hm
  have hpos : 0 < max limit.toNat 1 := by omega
  have hpage : (offset / max limit 1).toNat = offset.toNat / max limit.toNat 1 := by
    rw [UInt32.toNat_div, toNat_max_one]
  have hwindow := (mem_window_mul hpos).mpr hpage.symm
  rw [mem_window] at hwindow
  constructor
  · exact hwindow.1
  · rw [Nat.add_mul, Nat.one_mul]
    exact hwindow.2
  · simp

theorem exact_of_lt (h : offset.toNat + limit.toNat < 2 ^ 32) : Exact p limit offset total := by
  constructor
  · have hm := new_value p total h
    exact ⟨_, hm, describes_of_lt h hm⟩
  · intro m hm hmore o ho
    have hle : o.toNat ≤ offset.toNat := UInt32.le_iff_toNat_le.mp ho
    have hlt := (describes_of_lt h hm).hasMore_iff.mp hmore
    refine ⟨_, new_value p total (by omega), ?_⟩
    simp only [decide_eq_true_eq]
    omega

/-- With overflow checks the sum has to fit. -/
theorem lt_of_debug {m : ListResponseMeta} (h : new debug limit offset total = .value m) :
    offset.toNat + limit.toNat < 2 ^ 32 := by
  rw [new_eq] at h
  cases hsum : debug.add32 offset limit with
  | value reached => exact of_decide_eq_true (Profile.arith_debug hsum)
  | panic =>
    rw [hsum, Outcome.panic_bind] at h
    cases h

/-- A sum that wraps promises more records where there are none. -/
theorem not_exact_of_le (h : 2 ^ 32 ≤ offset.toNat + limit.toNat) :
    ¬ Exact p limit offset (offset.toUInt64 + limit.toUInt64) := by
  intro hexact
  obtain ⟨m, hm, hdesc⟩ := hexact.described
  rw [new_eq] at hm
  cases hsum : p.add32 offset limit with
  | panic =>
    rw [hsum, Outcome.panic_bind] at hm
    cases hm
  | value reached =>
    rw [hsum, Outcome.value_bind] at hm
    obtain rfl := Outcome.value.inj hm
    have ho := offset.toNat_lt
    have hl := limit.toNat_lt
    have htotal : (offset.toUInt64 + limit.toUInt64).toNat = offset.toNat + limit.toNat := by
      rw [UInt64.toNat_add, UInt32.toNat_toUInt64, UInt32.toNat_toUInt64]
      omega
    have hreached := reached.toNat_lt
    have hiff := hdesc.hasMore_iff
    simp only [decide_eq_true_eq, UInt64.lt_iff_toNat_lt, UInt32.toNat_toUInt64, htotal] at hiff
    omega

/-- The metadata is exact in both builds, or for every total in either, exactly for
the windows that end below `2 ^ 32`. -/
theorem metadata_exact_iff (limit offset : UInt32) :
    (∀ total, (∀ p, Exact p limit offset total) ↔ offset.toNat + limit.toNat < 2 ^ 32) ∧
      ∀ p, (∀ total, Exact p limit offset total) ↔ offset.toNat + limit.toNat < 2 ^ 32 := by
  constructor
  · intro total
    constructor
    · intro h
      obtain ⟨m, hm, -⟩ := (h debug).described
      exact lt_of_debug hm
    · intro h p
      exact exact_of_lt h
  · intro p
    constructor
    · intro h
      by_contra hlt
      exact not_exact_of_le (Nat.not_lt.mp hlt) (h _)
    · intro h total
      exact exact_of_lt h

/-- One record after the last offset: the wrapped sum is zero. -/
theorem metadata_exact_fails :
    ¬ Exact release 1 4294967295 5 ∧ new debug 1 4294967295 5 = .panic ∧
      new release 1 4294967295 5 = .value
        { page := 4294967295, limit := 1, offset := 4294967295, hasMore := true
          totalRecords := 5 } := by
  have hrun : new release 1 4294967295 5 = .value
      { page := 4294967295, limit := 1, offset := 4294967295, hasMore := true
        totalRecords := 5 } := by decide
  refine ⟨?_, by decide, hrun⟩
  intro h
  obtain ⟨m, hm, hdesc⟩ := h.described
  rw [hrun] at hm
  obtain rfl := Outcome.value.inj hm
  exact absurd (hdesc.hasMore_iff.mp rfl) (by decide)

end ListResponseMeta

namespace PageParams

def defaultLimit : UInt32 := 50
def maxLimit : UInt32 := 1000
def maxPage : UInt32 := 100

/-- The limit and the offset of a request, or what is wrong with it. -/
def limitOffset (p : Profile) (params : PageParams) :
    Outcome (Except String (UInt32 × UInt32)) :=
  match params.limit with
  -- you can't set page or offset without limit
  | none => return .ok (50, 0)
  | some limit =>
    let limit := if limit = 0 then defaultLimit else limit
    if maxLimit < limit then
      return .error s!"limit({limit}) more than max allowed({maxLimit})"
    else do
      let offset := params.offset.getD 0
      if (← p.mul32 maxPage limit) < offset then
        return .error s!"offset({offset}) more than max allowed({← p.mul32 maxPage limit})"
      else if 0 < offset then
        return .ok (limit, offset)
      else
        -- manual offset has higher priority than page parameter
        let page := params.page.getD 0
        if maxPage < page then
          return .error s!"page({page}) more than max allowed({maxPage})"
        else
          return .ok (limit, ← p.mul32 page limit)

/-- The bounds of every accepted request. -/
structure InRange (limit offset : UInt32) : Prop where
  pos : 1 ≤ limit.toNat
  limit_le : limit.toNat ≤ 1000
  offset_le : offset.toNat ≤ 100 * limit.toNat

/-- The record indices a request is answered with, as far as there are records. -/
def covers (p : Profile) (params : PageParams) : Set Nat :=
  fun i => ∃ limit offset, params.limitOffset p = .value (.ok (limit, offset)) ∧
    i ∈ window limit.toNat offset.toNat

def atPage (limit page : UInt32) : PageParams :=
  { limit := some limit, offset := none, page := some page }

def atOffset (limit offset : UInt32) : PageParams :=
  { limit := some limit, offset := some offset, page := none }

variable {p : Profile} {params : PageParams} {limit offset page : UInt32}

/-- No product of a page or the last page with a limit overflows. -/
theorem mul_limit (hpage : page.toNat ≤ 100) (hlimit : limit.toNat ≤ 1000) :
    page.toNat * limit.toNat < 2 ^ 32 := by
  have hmul := Nat.mul_le_mul hpage hlimit
  omega

theorem inRange_page (hpos : 1 ≤ limit.toNat) (hle : limit.toNat ≤ 1000)
    (hpage : page.toNat ≤ 100) : InRange limit (page * limit) := by
  constructor
  · exact hpos
  · exact hle
  · rw [toNat_mul32 (mul_limit hpage hle)]
    exact Nat.mul_le_mul_right _ hpage

theorem toNat_maxPage_mul (hlimit : limit.toNat ≤ 1000) :
    (maxPage * limit).toNat = 100 * limit.toNat :=
  toNat_mul32 (mul_limit (Nat.le_refl 100) hlimit)

theorem mul32_maxPage (hlimit : limit.toNat ≤ 1000) :
    p.mul32 maxPage limit = .value (maxPage * limit) :=
  Profile.mul32_of_lt (mul_limit (Nat.le_refl 100) hlimit)

/-- A limit that is given and not too large, after its default. -/
theorem limitOffset_limited (p : Profile) {given : UInt32} (hgiven : params.limit = some given)
    (hoffset : params.offset.getD 0 = offset) (hpage : params.page.getD 0 = page)
    (hlimit : limit = if given = 0 then defaultLimit else given) (hle : limit.toNat ≤ 1000) :
    params.limitOffset p = .value
      (if maxPage * limit < offset then
        .error s!"offset({offset}) more than max allowed({maxPage * limit})"
      else if 0 < offset then .ok (limit, offset)
      else if maxPage < page then .error s!"page({page}) more than max allowed({maxPage})"
      else .ok (limit, page * limit)) := by
  have hmax : ¬ maxLimit < limit := by
    rw [UInt32.lt_iff_toNat_lt]
    exact Nat.not_lt.mpr hle
  simp only [limitOffset, hgiven, ← hlimit, hoffset, hpage, if_neg hmax, mul32_maxPage hle,
    Outcome.value_bind, Outcome.pure_eq]
  split
  · rfl
  split
  · rfl
  split
  · rfl
  case isFalse hpage =>
    rw [UInt32.lt_iff_toNat_lt] at hpage
    rw [Profile.mul32_of_lt (mul_limit (Nat.not_lt.mp hpage) hle), Outcome.value_bind]

theorem limitOffset_tooLarge (p : Profile) {given : UInt32} (hgiven : params.limit = some given)
    (hlimit : limit = if given = 0 then defaultLimit else given) (hlt : 1000 < limit.toNat) :
    params.limitOffset p =
      .value (.error s!"limit({limit}) more than max allowed({maxLimit})") := by
  have hmax : maxLimit < limit := UInt32.lt_iff_toNat_lt.mpr hlt
  simp only [limitOffset, hgiven, ← hlimit, if_pos hmax, Outcome.pure_eq]

theorem pos_of_default {given : UInt32}
    (hlimit : limit = if given = 0 then defaultLimit else given) : 1 ≤ limit.toNat := by
  rw [hlimit]
  split
  · decide
  · rename_i hne
    rw [Nat.one_le_iff_ne_zero]
    intro h
    exact hne (UInt32.toNat_inj.mp h)

theorem given_of_pos (hpos : 1 ≤ limit.toNat) :
    limit = if limit = 0 then defaultLimit else limit := by
  rw [if_neg]
  rintro rfl
  exact absurd hpos (by decide)

theorem InRange.sum_lt (h : InRange limit offset) : offset.toNat + limit.toNat < 2 ^ 32 := by
  have hlimit := h.limit_le
  have hoffset := h.offset_le
  omega

/-- Every request is answered or refused, alike in every build. -/
theorem limitOffset_value (params : PageParams) :
    ∃ r, (∀ p, params.limitOffset p = .value r) ∧
      ∀ limit offset, r = .ok (limit, offset) → InRange limit offset := by
  cases hgiven : params.limit with
  | none =>
    refine ⟨.ok (50, 0), ?_, ?_⟩
    · intro p
      simp only [limitOffset, hgiven, Outcome.pure_eq]
    · intro limit offset h
      cases h
      constructor <;> decide
  | some given =>
    obtain ⟨limit, hlimit⟩ : ∃ limit, limit = if given = 0 then defaultLimit else given := ⟨_, rfl⟩
    by_cases hle : limit.toNat ≤ 1000
    · refine ⟨_, fun p => limitOffset_limited p hgiven rfl rfl hlimit hle, ?_⟩
      intro limit' offset h
      have hpos := pos_of_default hlimit
      split at h
      · cases h
      rename_i hoffset
      rw [UInt32.lt_iff_toNat_lt, toNat_maxPage_mul hle] at hoffset
      split at h
      · cases h
        exact ⟨hpos, hle, Nat.not_lt.mp hoffset⟩
      split at h
      · cases h
      rename_i hpage
      have hpage : (params.page.getD 0).toNat ≤ 100 := by
        rw [UInt32.lt_iff_toNat_lt] at hpage
        exact Nat.not_lt.mp hpage
      cases h
      exact inRange_page hpos hle hpage
    · refine ⟨_, fun p => limitOffset_tooLarge p hgiven hlimit (Nat.not_le.mp hle), ?_⟩
      intro limit' offset h
      cases h

theorem limitOffset_atPage (p : Profile) (hpos : 1 ≤ limit.toNat) (hle : limit.toNat ≤ 1000)
    (page : UInt32) :
    (atPage limit page).limitOffset p = .value
      (if page ≤ maxPage then .ok (limit, page * limit)
      else .error s!"page({page}) more than max allowed({maxPage})") := by
  rw [limitOffset_limited p rfl (show (atPage _ _).offset.getD 0 = 0 from rfl)
    (show (atPage _ _).page.getD 0 = page from rfl) (given_of_pos hpos) hle]
  have hmax : ¬ maxPage * limit < 0 := UInt32.not_lt_zero
  have hzero : ¬ (0 : UInt32) < 0 := UInt32.lt_irrefl 0
  rw [if_neg hmax, if_neg hzero]
  by_cases hpage : page ≤ maxPage
  · rw [if_pos hpage, if_neg (UInt32.not_lt.mpr hpage)]
  · rw [if_neg hpage, if_pos (UInt32.not_le.mp hpage)]

theorem mem_covers_atPage (p : Profile) (hpos : 1 ≤ limit.toNat) (hle : limit.toNat ≤ 1000)
    {page : UInt32} {i : Nat} :
    i ∈ (atPage limit page).covers p ↔
      page.toNat ≤ 100 ∧ i ∈ window limit.toNat (page.toNat * limit.toNat) := by
  show (∃ l o, _ ∧ _) ↔ _
  rw [limitOffset_atPage p hpos hle]
  by_cases hpage : page.toNat ≤ 100
  · have hmul := toNat_mul32 (mul_limit hpage hle)
    rw [if_pos (UInt32.le_iff_toNat_le.mpr hpage)]
    constructor
    · rintro ⟨l, o, h, hi⟩
      cases h
      rw [hmul] at hi
      exact ⟨hpage, hi⟩
    · rintro ⟨-, hi⟩
      refine ⟨limit, page * limit, rfl, ?_⟩
      rw [hmul]
      exact hi
  · rw [if_neg fun h => hpage (UInt32.le_iff_toNat_le.mp h)]
    constructor
    · rintro ⟨l, o, h, -⟩
      cases h
    · rintro ⟨h, -⟩
      exact absurd h hpage

/-- A page and its offset ask for the same records. -/
theorem limitOffset_atOffset (p : Profile) (hpos : 1 ≤ limit.toNat) (hle : limit.toNat ≤ 1000)
    (hpage : page.toNat ≤ 100) :
    (atOffset limit (page * limit)).limitOffset p = .value (.ok (limit, page * limit)) := by
  rw [limitOffset_limited p rfl (show (atOffset _ _).offset.getD 0 = page * limit from rfl)
    (show (atOffset _ _).page.getD 0 = 0 from rfl) (given_of_pos hpos) hle]
  have hmul := toNat_mul32 (mul_limit hpage hle)
  have hoffset : ¬ maxPage * limit < page * limit := by
    rw [UInt32.lt_iff_toNat_lt, hmul, toNat_maxPage_mul hle]
    exact Nat.not_lt.mpr (Nat.mul_le_mul_right _ hpage)
  rw [if_neg hoffset]
  by_cases hzero : 0 < page * limit
  · rw [if_pos hzero]
  · have hpage : page * limit = 0 := by
      rw [UInt32.lt_iff_toNat_lt] at hzero
      exact UInt32.toNat_inj.mp (Nat.eq_zero_of_not_pos hzero)
    have hmax : ¬ maxPage < 0 := by decide
    rw [if_neg hzero, if_neg hmax, hpage, UInt32.zero_mul]

/-- What the pages of one length are to a client that walks them. -/
structure Paged (p : Profile) (limit : UInt32) (total : UInt64) : Prop where
  accepted : ∀ page, (∃ w, (atPage limit page).limitOffset p = .value (.ok w)) ↔ page ≤ 100
  disjoint : ∀ page page', page ≠ page' →
    Disjoint ((atPage limit page).covers p) ((atPage limit page').covers p)
  once : ∀ i < min total.toNat (101 * limit.toNat), ∃! page, i ∈ (atPage limit page).covers p
  sameAsOffset : ∀ page ≤ 100,
    (atPage limit page).limitOffset p = (atOffset limit (page * limit)).limitOffset p
  reported : ∀ page ≤ 100, ∀ l o, (atPage limit page).limitOffset p = .value (.ok (l, o)) →
    ∃ m, ListResponseMeta.new p l o total = .value m ∧ m.page = page

theorem paged (p : Profile) (hpos : 1 ≤ limit.toNat) (hle : limit.toNat ≤ 1000)
    (total : UInt64) : Paged p limit total := by
  constructor
  case accepted =>
    intro page
    rw [limitOffset_atPage p hpos hle]
    constructor
    · rintro ⟨w, h⟩
      split at h
      · assumption
      · cases h
    · intro hpage
      exact ⟨_, by rw [if_pos (show page ≤ maxPage from hpage)]⟩
  case disjoint =>
    intro page page' hne
    rw [Set.disjoint_left]
    intro i hi hi'
    rw [mem_covers_atPage p hpos hle] at hi hi'
    have hwindows := window_disjoint hpos fun h => hne (UInt32.toNat_inj.mp h)
    exact Set.disjoint_left.mp hwindows hi.2 hi'.2
  case once =>
    intro i hi
    obtain ⟨n, ⟨hn, hmem⟩, huniq⟩ :=
      existsUnique_window hpos (Nat.lt_of_lt_of_le hi (Nat.min_le_right _ (101 * limit.toNat)))
    have hnat : (UInt32.ofNat n).toNat = n :=
      UInt32.toNat_ofNat_of_lt' (Nat.lt_of_le_of_lt hn (by decide))
    refine ⟨UInt32.ofNat n, ?_, ?_⟩
    · show i ∈ _
      rw [mem_covers_atPage p hpos hle, hnat]
      exact ⟨hn, hmem⟩
    · intro page hpage
      have hpage := huniq page.toNat ((mem_covers_atPage p hpos hle).mp hpage)
      rw [← hpage, UInt32.ofNat_toNat]
  case sameAsOffset =>
    intro page hpage
    have hpage' : page.toNat ≤ 100 := UInt32.le_iff_toNat_le.mp hpage
    rw [limitOffset_atPage p hpos hle, limitOffset_atOffset p hpos hle hpage',
      if_pos (show page ≤ maxPage from hpage)]
  case reported =>
    intro page hpage l o h
    rw [limitOffset_atPage p hpos hle, if_pos (show page ≤ maxPage from hpage)] at h
    cases h
    have hpage' : page.toNat ≤ 100 := UInt32.le_iff_toNat_le.mp hpage
    have hmul := mul_limit hpage' hle
    refine ⟨_, ListResponseMeta.new_value p total (inRange_page hpos hle hpage').sum_lt, ?_⟩
    apply UInt32.toNat_inj.mp
    rw [UInt32.toNat_div, ListResponseMeta.toNat_max_one, toNat_mul32 hmul,
      Nat.max_eq_left hpos, Nat.mul_div_cancel _ hpos]

/-- Every accepted request gets metadata for its window, and the pages of any one
length cover the records below page 101 once. -/
theorem paging_exact :
    (∀ params : PageParams, ∃ r, (∀ p, params.limitOffset p = .value r) ∧
      ∀ limit offset, r = .ok (limit, offset) →
        (1 ≤ limit ∧ limit ≤ 1000 ∧ offset.toNat ≤ 100 * limit.toNat) ∧
        ∀ total : UInt64, ∃ m, (∀ p, ListResponseMeta.new p limit offset total = .value m) ∧
          m.page.toNat * limit.toNat ≤ offset.toNat ∧
          offset.toNat < (m.page.toNat + 1) * limit.toNat ∧
          (m.hasMore = true ↔ ∃ i, offset.toNat + limit.toNat ≤ i ∧ i < total.toNat)) ∧
      ∀ (p : Profile) (limit : UInt32) (total : UInt64), 1 ≤ limit → limit ≤ 1000 →
        Paged p limit total := by
  constructor
  · intro params
    obtain ⟨r, hr, hrange⟩ := limitOffset_value params
    refine ⟨r, hr, ?_⟩
    intro limit offset h
    have hin := hrange limit offset h
    refine ⟨⟨UInt32.le_iff_toNat_le.mpr hin.pos, UInt32.le_iff_toNat_le.mpr hin.limit_le,
      hin.offset_le⟩, ?_⟩
    intro total
    refine ⟨_, fun p => ListResponseMeta.new_value p total hin.sum_lt, ?_⟩
    have hdesc := ListResponseMeta.describes_of_lt hin.sum_lt
      (ListResponseMeta.new_value debug total hin.sum_lt)
    have hmax : max limit.toNat 1 = limit.toNat := Nat.max_eq_left hin.pos
    have hle := hdesc.page_le
    have hlt := hdesc.lt_page
    rw [hmax] at hle hlt
    exact ⟨hle, hlt, hdesc.hasMore_iff.trans beyond_window.symm⟩
  · intro p limit total hpos hle
    exact paged p (UInt32.le_iff_toNat_le.mp hpos) (UInt32.le_iff_toNat_le.mp hle) total

end PageParams

end RgbNodeApi
