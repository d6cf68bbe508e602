import RgbNodeApi.Lib.Json

/-!
# Records by their fields

How the fields of a record are found in an object or in an array, as the readers that
serde derives are documented to find them. What an object is read as depends only on
the values that it has under the names of each field.
-/
namespace Json

variable {α β : Type}

/-- The member of a name, or `v₀` in an object without it. -/
def memberOr (v₀ : Value) (name : String) (ms : List (String × Value)) : Option Value :=
  match ms.filter fun m => m.1 = name with
  | [] => some v₀
  | [m] => some m.2
  | _ :: _ :: _ => none

/-- A field under its names. `absent` is its value in an object without it, and
`short` its value in an array that ends before it. -/
structure NamedField (α : Type) where
  name : String
  aliases : List String
  codec : Codec α
  absent : Option α
  short : Option α
  absent_valid : ∀ a, absent = some a → codec.Valid a
  short_valid : ∀ a, short = some a → codec.Valid a

namespace NamedField

@[simp] def required (name : String) (codec : Codec α) (aliases : List String := []) :
    NamedField α :=
  ⟨name, aliases, codec, none, none, nofun, nofun⟩

@[simp] def defaulted (name : String) (codec : Codec α) (a : α) (h : codec.Valid a)
    (aliases : List String := []) : NamedField α :=
  ⟨name, aliases, codec, some a, some a, fun _ hb => Option.some.inj hb ▸ h,
    fun _ hb => Option.some.inj hb ▸ h⟩

/-- A field that is `none` when an object leaves it out; an array must have it. -/
@[simp] def optional (name : String) (codec : Codec (Option α)) (h : codec.Valid none) :
    NamedField (Option α) :=
  ⟨name, [], codec, some none, none, fun _ hb => Option.some.inj hb ▸ h, nofun⟩

variable (f : NamedField α)

def keys : List String := f.name :: f.aliases

/-- The values under the names of the field, as they are read. -/
def find (ms : List (String × Value)) : List (Option α) :=
  (ms.filter fun m => m.1 ∈ f.keys).map fun m => f.codec.decode m.2

/-- A field that an object has twice is refused. -/
def read (ms : List (String × Value)) : Option α :=
  match f.find ms with
  | [] => f.absent
  | [a] => a
  | _ :: _ :: _ => none

theorem find_append (ms ms' : List (String × Value)) :
    f.find (ms ++ ms') = f.find ms ++ f.find ms' := by simp [find]

theorem find_eq_nil {ms : List (String × Value)} (h : ∀ m ∈ ms, m.1 ∉ f.keys) :
    f.find ms = [] := by
  rw [find, List.map_eq_nil_iff, List.filter_eq_nil_iff]
  simpa using h

theorem find_single {k : String} (hk : k ∈ f.keys) (v : Value) :
    f.find [(k, v)] = [f.codec.decode v] := by
  simp [find, hk]

/-- What is found was read from some value. -/
theorem mem_find {ms : List (String × Value)} {a : Option α} (h : a ∈ f.find ms) :
    ∃ v, f.codec.decode v = a := by
  obtain ⟨m, -, hm⟩ := List.mem_map.mp h
  exact ⟨m.2, hm⟩

theorem find_perm {ms ms' : List (String × Value)} (h : ms.Perm ms') :
    (f.find ms).Perm (f.find ms') :=
  (h.filter _).map _

theorem read_congr {ms ms' : List (String × Value)} (h : (f.find ms).Perm (f.find ms')) :
    f.read ms = f.read ms' := by
  unfold read
  cases hm : f.find ms with
  | nil =>
    rw [hm] at h
    rw [List.nil_perm.mp h]
  | cons a rest =>
    rw [hm] at h
    cases rest with
    | nil => rw [List.singleton_perm.mp h]
    | cons b rest =>
      have hlen := h.length_eq
      cases hm' : f.find ms' with
      | nil => simp [hm'] at hlen
      | cons a' rest' =>
        cases rest' with
        | nil => simp [hm'] at hlen
        | cons b' rest' => rfl

theorem read_other {k : String} (hk : k ∉ f.keys) {v : Value} {ms : List (String × Value)} :
    f.read ((k, v) :: ms) = f.read ms := by
  simp [read, find, hk]

/-- A field with one name reads the member of that name. -/
theorem read_iff_memberOr {f : NamedField α} (hf : f.aliases = []) (v₀ : Value)
    (h : f.codec.decode v₀ = f.absent) {ms : List (String × Value)} {a : α} :
    f.read ms = some a ↔ ∃ v, memberOr v₀ f.name ms = some v ∧ f.codec.decode v = some a := by
  have hfind : f.find ms = (ms.filter fun m => m.1 = f.name).map fun m => f.codec.decode m.2 := by
    simp [find, keys, hf]
  rw [read, memberOr, hfind]
  cases ms.filter fun m => decide (m.1 = f.name) with
  | nil => simp [h]
  | cons m rest => cases rest <;> simp

theorem read_valid {ms : List (String × Value)} {a : α} (h : f.read ms = some a) :
    f.codec.Valid a := by
  unfold read at h
  split at h
  · exact f.absent_valid a h
  · rename_i o hfind
    obtain ⟨v, hv⟩ := f.mem_find (hfind ▸ List.mem_singleton_self o)
    exact f.codec.valid v a (hv.trans h)
  · cases h

end NamedField

/-- The fields of a record, in order. The record is the tuple of their values. -/
inductive Fields : Type → Type 1 where
  | nil : Fields Unit
  | cons {β α : Type} (f : NamedField β) (rest : Fields α) : Fields (β × α)

namespace Fields

def names : {α : Type} → Fields α → List String
  | _, nil => []
  | _, cons f rest => f.keys ++ rest.names

def readObj : {α : Type} → Fields α → List (String × Value) → Option α
  | _, nil, _ => some ()
  | _, cons f rest, ms => do
    let b ← f.read ms
    let a ← rest.readObj ms
    some (b, a)

/-- By place, with nothing left over. -/
def readArr : {α : Type} → Fields α → List Value → Option α
  | _, nil, [] => some ()
  | _, nil, _ :: _ => none
  | _, cons f rest, [] => do
    let b ← f.short
    let a ← rest.readArr []
    some (b, a)
  | _, cons f rest, v :: vs => do
    let b ← f.codec.decode v
    let a ← rest.readArr vs
    some (b, a)

def toObj : {α : Type} → Fields α → α → List (String × Value)
  | _, nil, _ => []
  | _, cons f rest, a => (f.name, f.codec.encode a.1) :: rest.toObj a.2

def toArr : {α : Type} → Fields α → α → List Value
  | _, nil, _ => []
  | _, cons f rest, a => f.codec.encode a.1 :: rest.toArr a.2

def Valid : {α : Type} → Fields α → α → Prop
  | _, nil, _ => True
  | _, cons f rest, a => f.codec.Valid a.1 ∧ rest.Valid a.2

@[simp] theorem valid_nil (a : Unit) : nil.Valid a := trivial

@[simp] theorem valid_cons (f : NamedField β) (rest : Fields α) (a : β × α) :
    (cons f rest).Valid a ↔ f.codec.Valid a.1 ∧ rest.Valid a.2 := .rfl

/-- Every field is read as its part of the tuple. -/
def Reads (ms : List (String × Value)) : {α : Type} → Fields α → α → Prop
  | _, nil, _ => True
  | _, cons f rest, a => f.read ms = some a.1 ∧ rest.Reads ms a.2

theorem readObj_eq_some_iff (fs : Fields α) (ms : List (String × Value)) (a : α) :
    fs.readObj ms = some a ↔ fs.Reads ms a := by
  induction fs with
  | nil => simp [readObj, Reads]
  | cons f rest ih =>
    obtain ⟨b, a⟩ := a
    simp [readObj, Reads, Option.bind_eq_some_iff, ih]

theorem Reads.valid {ms : List (String × Value)} {fs : Fields α} {a : α} (h : fs.Reads ms a) :
    fs.Valid a := by
  induction fs with
  | nil => trivial
  | cons f rest ih => exact ⟨f.read_valid h.1, ih h.2⟩

theorem readArr_valid {fs : Fields α} {vs : List Value} {a : α} (h : fs.readArr vs = some a) :
    fs.Valid a := by
  induction fs generalizing vs with
  | nil => trivial
  | cons f rest ih =>
    cases vs with
    | nil =>
      obtain ⟨b, hb, a', ha', he⟩ : ∃ b, f.short = some b ∧ ∃ a', rest.readArr [] = some a' ∧
          (b, a') = a := by simpa [readArr, Option.bind_eq_some_iff] using h
      exact he ▸ ⟨f.short_valid b hb, ih ha'⟩
    | cons v vs =>
      obtain ⟨b, hb, a', ha', he⟩ : ∃ b, f.codec.decode v = some b ∧
          ∃ a', rest.readArr vs = some a' ∧ (b, a') = a := by
        simpa [readArr, Option.bind_eq_some_iff] using h
      exact he ▸ ⟨f.codec.valid v b hb, ih ha'⟩

/-- A place that an array ends before counts as holding `v₀`. -/
theorem readArr_cons_iff {f : NamedField β} {rest : Fields α} (v₀ : Value)
    (h : f.codec.decode v₀ = f.short) {vs : List Value} {b : β} {a : α} :
    (cons f rest).readArr vs = some (b, a) ↔
      f.codec.decode (vs.headD v₀) = some b ∧ rest.readArr vs.tail = some a := by
  cases vs with
  | nil => simp [readArr, Option.bind_eq_some_iff, h]
  | cons v vs => simp [readArr, Option.bind_eq_some_iff]

theorem readArr_nil_iff {vs : List Value} : nil.readArr vs = some () ↔ vs = [] := by
  cases vs <;> simp [readArr]

/-- A record that is written by place is read back. -/
theorem readArr_toArr {fs : Fields α} {a : α} (h : fs.Valid a) :
    fs.readArr (fs.toArr a) = some a := by
  induction fs with
  | nil => rfl
  | cons f rest ih =>
    obtain ⟨b, a⟩ := a
    simp [readArr, toArr, f.codec.decode_encode b h.1, ih h.2]

theorem mem_toObj {fs : Fields α} {a : α} {m : String × Value} (h : m ∈ fs.toObj a) :
    m.1 ∈ fs.names := by
  induction fs with
  | nil => cases h
  | cons f rest ih =>
    obtain rfl | h := List.mem_cons.mp h
    · exact List.mem_append_left _ List.mem_cons_self
    · exact List.mem_append_right _ (ih h)

theorem reads_toObj {fs : Fields α} (hd : fs.names.Nodup) {a : α} (h : fs.Valid a)
    {pre : List (String × Value)} (hpre : ∀ m ∈ pre, m.1 ∉ fs.names) :
    fs.Reads (pre ++ fs.toObj a) a := by
  induction fs generalizing pre with
  | nil => trivial
  | cons f rest ih =>
    obtain ⟨b, a⟩ := a
    obtain ⟨-, hrest, hdisj⟩ := List.nodup_append.mp hd
    have hname : f.name ∈ f.keys := List.mem_cons_self
    have hmem : (f.name, f.codec.encode b) :: rest.toObj a =
        [(f.name, f.codec.encode b)] ++ rest.toObj a := rfl
    constructor
    · have hbefore : f.find pre = [] :=
        f.find_eq_nil fun m hm hk => hpre m hm (List.mem_append_left _ hk)
      have hafter : f.find (rest.toObj a) = [] :=
        f.find_eq_nil fun m hm hk => hdisj _ hk _ (mem_toObj hm) rfl
      have hfind : f.find (pre ++ (cons f rest).toObj (b, a)) =
          [f.codec.decode (f.codec.encode b)] := by
        rw [toObj, hmem, f.find_append, f.find_append, hbefore, hafter, f.find_single hname]
        rfl
      simp [NamedField.read, hfind, f.codec.decode_encode b h.1]
    · rw [toObj, hmem, ← List.append_assoc]
      refine ih hrest h.2 fun m hm hk => ?_
      obtain hm | hm := List.mem_append.mp hm
      · exact hpre m hm (List.mem_append_right _ hk)
      · rw [List.mem_singleton.mp hm] at hk
        exact hdisj _ hname _ hk rfl

/-- A record that is written as an object is read back. -/
theorem readObj_toObj {fs : Fields α} (hd : fs.names.Nodup) {a : α} (h : fs.Valid a) :
    fs.readObj (fs.toObj a) = some a :=
  have hnil : ∀ m ∈ ([] : List (String × Value)), m.1 ∉ fs.names := nofun
  (fs.readObj_eq_some_iff _ a).mpr (reads_toObj hd h hnil)

/-- The codec of a record, which reads objects and arrays. -/
def codec (fs : Fields α) (hd : fs.names.Nodup) : Codec α where
  decode
    | .obj ms => fs.readObj ms
    | .arr vs => fs.readArr vs
    | _ => none
  encode a := .obj (fs.toObj a)
  Valid := fs.Valid
  decode_encode a h := readObj_toObj hd h
  valid v a h := by
    split at h
    · exact ((fs.readObj_eq_some_iff _ a).mp h).valid
    · exact readArr_valid h
    · cases h

/-! ## What makes no difference -/

/-- Two names of one field. -/
def Twins (k k' : String) : {α : Type} → Fields α → Prop
  | _, nil => False
  | _, cons f rest => (k ∈ f.keys ∧ k' ∈ f.keys) ∨ rest.Twins k k'

/-- The field with this name reads both values alike. -/
def Alike (k : String) (v v' : Value) : {α : Type} → Fields α → Prop
  | _, nil => False
  | _, cons f rest => (k ∈ f.keys ∧ f.codec.decode v = f.codec.decode v') ∨ rest.Alike k v v'

/-- The field with this name is left out, and the value is what that means. -/
def Default (k : String) (v : Value) (ms : List (String × Value)) : {α : Type} → Fields α → Prop
  | _, nil => False
  | _, cons f rest =>
    (k ∈ f.keys ∧ f.find ms = [] ∧ f.codec.decode v = f.absent) ∨ rest.Default k v ms

/-- Objects that differ in the order of their members, in members that no field has,
in which of its names a field goes by, in values that a field reads alike, and in
whether a default is left out. -/
inductive Respelled (fs : Fields α) : List (String × Value) → List (String × Value) → Prop
  | perm {ms ms' : List (String × Value)} (h : ms.Perm ms') : Respelled fs ms ms'
  | skip {k : String} (v : Value) (ms : List (String × Value)) (h : k ∉ fs.names) :
      Respelled fs ((k, v) :: ms) ms
  | rename {k k' : String} (v : Value) (ms : List (String × Value)) (h : fs.Twins k k') :
      Respelled fs ((k, v) :: ms) ((k', v) :: ms)
  | value {k : String} {v v' : Value} (ms : List (String × Value)) (h : fs.Alike k v v') :
      Respelled fs ((k, v) :: ms) ((k, v') :: ms)
  | default {k : String} {v : Value} {ms : List (String × Value)} (h : fs.Default k v ms) :
      Respelled fs ((k, v) :: ms) ms
  | symm {ms ms' : List (String × Value)} (h : Respelled fs ms ms') : Respelled fs ms' ms
  | trans {ms ms' ms'' : List (String × Value)} (h : Respelled fs ms ms')
      (h' : Respelled fs ms' ms'') : Respelled fs ms ms''

theorem Twins.mem_names {k k' : String} {fs : Fields α} (h : fs.Twins k k') :
    k ∈ fs.names ∧ k' ∈ fs.names := by
  induction fs with
  | nil => cases h
  | cons f rest ih =>
    obtain ⟨hk, hk'⟩ | h := h
    · exact ⟨List.mem_append_left _ hk, List.mem_append_left _ hk'⟩
    · exact ⟨List.mem_append_right _ (ih h).1, List.mem_append_right _ (ih h).2⟩

theorem Alike.mem_names {k : String} {v v' : Value} {fs : Fields α} (h : fs.Alike k v v') :
    k ∈ fs.names := by
  induction fs with
  | nil => cases h
  | cons f rest ih =>
    obtain ⟨hk, -⟩ | h := h
    · exact List.mem_append_left _ hk
    · exact List.mem_append_right _ (ih h)

theorem Default.mem_names {k : String} {v : Value} {ms : List (String × Value)} {fs : Fields α}
    (h : fs.Default k v ms) : k ∈ fs.names := by
  induction fs with
  | nil => cases h
  | cons f rest ih =>
    obtain ⟨hk, -⟩ | h := h
    · exact List.mem_append_left _ hk
    · exact List.mem_append_right _ (ih h)

theorem readObj_skip {k : String} (v : Value) (ms : List (String × Value)) {fs : Fields α}
    (h : k ∉ fs.names) : fs.readObj ((k, v) :: ms) = fs.readObj ms := by
  induction fs with
  | nil => rfl
  | cons f rest ih =>
    have hk : k ∉ f.keys := fun hk => h (List.mem_append_left _ hk)
    have hrest := ih fun hk => h (List.mem_append_right _ hk)
    rw [readObj, readObj, f.read_other hk, hrest]

theorem readObj_unknown {k k' : String} (v v' : Value) (ms : List (String × Value))
    {fs : Fields α} (h : k ∉ fs.names) (h' : k' ∉ fs.names) :
    fs.readObj ((k, v) :: ms) = fs.readObj ((k', v') :: ms) :=
  (readObj_skip v ms h).trans (readObj_skip v' ms h').symm

theorem readObj_perm {ms ms' : List (String × Value)} (h : ms.Perm ms') (fs : Fields α) :
    fs.readObj ms = fs.readObj ms' := by
  induction fs with
  | nil => rfl
  | cons f rest ih => rw [readObj, readObj, f.read_congr (f.find_perm h), ih]

theorem readObj_rename {k k' : String} (v : Value) (ms : List (String × Value)) {fs : Fields α}
    (hd : fs.names.Nodup) (h : fs.Twins k k') :
    fs.readObj ((k, v) :: ms) = fs.readObj ((k', v) :: ms) := by
  induction fs with
  | nil => rfl
  | cons f rest ih =>
    obtain ⟨-, hrest, hdisj⟩ := List.nodup_append.mp hd
    obtain ⟨hk, hk'⟩ | h := h
    · have hnot : k ∉ rest.names := fun hr => hdisj _ hk _ hr rfl
      have hnot' : k' ∉ rest.names := fun hr => hdisj _ hk' _ hr rfl
      have hf : f.read ((k, v) :: ms) = f.read ((k', v) :: ms) := by
        simp [NamedField.read, NamedField.find, hk, hk']
      rw [readObj, readObj, hf, readObj_unknown v v ms hnot hnot']
    · obtain ⟨hk, hk'⟩ := h.mem_names
      have hnot : k ∉ f.keys := fun hf => hdisj _ hf _ hk rfl
      have hnot' : k' ∉ f.keys := fun hf => hdisj _ hf _ hk' rfl
      rw [readObj, readObj, f.read_other hnot, f.read_other hnot', ih hrest h]

theorem readObj_value {k : String} {v v' : Value} (ms : List (String × Value)) {fs : Fields α}
    (hd : fs.names.Nodup) (h : fs.Alike k v v') :
    fs.readObj ((k, v) :: ms) = fs.readObj ((k, v') :: ms) := by
  induction fs with
  | nil => rfl
  | cons f rest ih =>
    obtain ⟨-, hrest, hdisj⟩ := List.nodup_append.mp hd
    obtain ⟨hk, hv⟩ | h := h
    · have hnot : k ∉ rest.names := fun hr => hdisj _ hk _ hr rfl
      have hf : f.read ((k, v) :: ms) = f.read ((k, v') :: ms) := by
        simp [NamedField.read, NamedField.find, hk, hv]
      rw [readObj, readObj, hf, readObj_unknown v v' ms hnot hnot]
    · have hnot : k ∉ f.keys := fun hf => hdisj _ hf _ h.mem_names rfl
      rw [readObj, readObj, f.read_other hnot, f.read_other hnot, ih hrest h]

theorem readObj_default {k : String} {v : Value} {ms : List (String × Value)} {fs : Fields α}
    (hd : fs.names.Nodup) (h : fs.Default k v ms) :
    fs.readObj ((k, v) :: ms) = fs.readObj ms := by
  induction fs with
  | nil => rfl
  | cons f rest ih =>
    obtain ⟨-, hrest, hdisj⟩ := List.nodup_append.mp hd
    obtain ⟨hk, hfind, hv⟩ | h := h
    · have hnot : k ∉ rest.names := fun hr => hdisj _ hk _ hr rfl
      have hcons : f.find ((k, v) :: ms) = [f.codec.decode v] := by
        rw [← List.singleton_append, f.find_append, hfind, f.find_single hk, List.append_nil]
      have hf : f.read ((k, v) :: ms) = f.read ms := by
        simp [NamedField.read, hcons, hfind, hv]
      rw [readObj, readObj, hf, readObj_skip v ms hnot]
    · have hnot : k ∉ f.keys := fun hf => hdisj _ hf _ h.mem_names rfl
      rw [readObj, readObj, f.read_other hnot, ih hrest h]

/-- The spelling of an object makes no difference. -/
theorem readObj_respelled {ms ms' : List (String × Value)} {fs : Fields α} (hd : fs.names.Nodup)
    (h : fs.Respelled ms ms') : fs.readObj ms = fs.readObj ms' := by
  induction h with
  | perm h => exact readObj_perm h fs
  | skip v ms h => exact readObj_skip v ms h
  | rename v ms h => exact readObj_rename v ms hd h
  | value ms h => exact readObj_value ms hd h
  | default h => exact readObj_default hd h
  | symm _ ih => exact ih.symm
  | trans _ _ ih ih' => exact ih.trans ih'

end Fields

/-- A type of records. -/
structure Record (ρ : Type) where
  {τ : Type}
  fields : Fields τ
  distinct : fields.names.Nodup
  equiv : τ ≃ ρ

namespace Record

variable {ρ : Type} (r : Record ρ)

def codec : Codec ρ :=
  (r.fields.codec r.distinct).iso (fun t _ => r.equiv t) r.equiv.symm
    (fun a _ => r.equiv.apply_symm_apply a) fun t _ => r.equiv.symm_apply_apply t

theorem valid_iff (a : ρ) : r.codec.Valid a ↔ r.fields.Valid (r.equiv.symm a) := .rfl

/-- The members of a record under their first names. -/
def members (a : ρ) : List (String × Value) := r.fields.toObj (r.equiv.symm a)

def items (a : ρ) : List Value := r.fields.toArr (r.equiv.symm a)

theorem decode_obj_congr {ms ms' : List (String × Value)} (h : r.fields.Respelled ms ms') :
    r.codec.decode (.obj ms) = r.codec.decode (.obj ms') := by
  have hread : (r.fields.codec r.distinct).decode (.obj ms) =
      (r.fields.codec r.distinct).decode (.obj ms') := Fields.readObj_respelled r.distinct h
  simp only [codec, Codec.iso, hread]

theorem decode_iff {v : Value} {a : ρ} :
    r.codec.decode v = some a ↔
      (r.fields.codec r.distinct).decode v = some (r.equiv.symm a) := by
  simp only [codec, Codec.iso, Option.pmap_eq_some_iff]
  constructor
  · rintro ⟨t, -, hread, rfl⟩
    rw [r.equiv.symm_apply_apply]
    exact hread
  · intro hread
    exact ⟨_, (r.fields.codec r.distinct).valid v _ hread, hread,
      (r.equiv.apply_symm_apply a).symm⟩

/-- An object is read field by field. -/
theorem decode_obj_iff {ms : List (String × Value)} {a : ρ} :
    r.codec.decode (.obj ms) = some a ↔ r.fields.Reads ms (r.equiv.symm a) := by
  rw [decode_iff, ← Fields.readObj_eq_some_iff]
  rfl

theorem decode_arr_iff {vs : List Value} {a : ρ} :
    r.codec.decode (.arr vs) = some a ↔ r.fields.readArr vs = some (r.equiv.symm a) :=
  r.decode_iff

theorem decode_members {a : ρ} (h : r.codec.Valid a) :
    r.codec.decode (.obj (r.members a)) = some a :=
  r.codec.decode_encode a h

theorem decode_items {a : ρ} (h : r.codec.Valid a) :
    r.codec.decode (.arr (r.items a)) = some a := by
  have hread : (r.fields.codec r.distinct).decode (.arr (r.items a)) = some (r.equiv.symm a) :=
    Fields.readArr_toArr h
  simp [codec, Codec.iso, hread]

end Record

end Json
