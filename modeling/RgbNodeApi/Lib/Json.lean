import Mathlib.Data.List.Nodup
import Mathlib.Logic.Equiv.Defs

/-!
# Records in JSON

JSON values, and how they are read as data. A codec reads and writes the values of
one type. The fields of a record are read from an object by their names, where any
member may come anywhere and members with other names are skipped, or from an array
by their places. A field has one name or several, and may have a value for the case
that it is left out. All of this follows the documented behaviour of the readers that
serde derives.
-/
namespace Json

/-- An object as it is written: its members may repeat. -/
inductive Value where
  | null
  | bool (b : Bool)
  | int (z : Int)
  | float (text : String)
  | str (s : String)
  | arr (items : List Value)
  | obj (members : List (String × Value))

/-- A variant without data goes by its name, or by an object with that name as its
only member and `null` for the data. -/
def variantName : Value → Option String
  | .str s => some s
  | .obj [(s, .null)] => some s
  | _ => none

theorem variantName_iff {v : Value} {s : String} :
    variantName v = some s ↔ v = .str s ∨ v = .obj [(s, .null)] := by
  unfold variantName
  split <;> simp_all

/-- `Valid` are the values of the type that can be read. -/
structure Codec (α : Type) where
  decode : Value → Option α
  encode : α → Value
  Valid : α → Prop
  decode_encode : ∀ a, Valid a → decode (encode a) = some a
  valid : ∀ v a, decode v = some a → Valid a

namespace Codec

variable {α β : Type}

theorem valid_iff (c : Codec α) (a : α) : c.Valid a ↔ ∃ v, c.decode v = some a :=
  ⟨fun h => ⟨c.encode a, c.decode_encode a h⟩, fun ⟨v, h⟩ => c.valid v a h⟩

def bool : Codec Bool where
  decode
    | .bool b => some b
    | _ => none
  encode := .bool
  Valid _ := True
  decode_encode _ _ := rfl
  valid _ _ _ := trivial

def str : Codec String where
  decode
    | .str s => some s
    | _ => none
  encode := .str
  Valid _ := True
  decode_encode _ _ := rfl
  valid _ _ _ := trivial

/-- An unsigned number up to `max`. -/
def uint (max : Nat) : Codec Nat where
  decode
    | .int z => if 0 ≤ z ∧ z.toNat ≤ max then some z.toNat else none
    | _ => none
  encode n := .int n
  Valid n := n ≤ max
  decode_encode n h := by simp [h]
  valid v n h := by
    split at h
    · split at h
      · rename_i hz
        cases h
        exact hz.2
      · cases h
    · cases h

/-- A signed number between two bounds. -/
def sint (lo hi : Int) : Codec Int where
  decode
    | .int z => if lo ≤ z ∧ z ≤ hi then some z else none
    | _ => none
  encode := .int
  Valid z := lo ≤ z ∧ z ≤ hi
  decode_encode z h := by simp [h]
  valid v z h := by
    split at h
    · split at h
      · rename_i hz
        cases h
        exact hz
      · cases h
    · cases h

@[simp] theorem bool_valid (b : Bool) : bool.Valid b := trivial
@[simp] theorem str_valid (s : String) : str.Valid s := trivial
@[simp] theorem uint_valid_iff (max n : Nat) : (uint max).Valid n ↔ n ≤ max := .rfl
@[simp] theorem sint_valid_iff (lo hi z : Int) : (sint lo hi).Valid z ↔ lo ≤ z ∧ z ≤ hi := .rfl

theorem str_null : str.decode .null = none := rfl

theorem uint_null (max : Nat) : (uint max).decode .null = none := rfl

theorem sint_null (lo hi : Int) : (sint lo hi).decode .null = none := rfl

/-- `null` is `none`. -/
def option (c : Codec α) (hnull : c.decode .null = none) : Codec (Option α) where
  decode
    | .null => some none
    | v => (c.decode v).map some
  encode
    | none => .null
    | some a => c.encode a
  Valid
    | none => True
    | some a => c.Valid a
  decode_encode o h := by
    cases o with
    | none => rfl
    | some a =>
      have hdec := c.decode_encode a h
      cases hv : c.encode a with
      | null =>
        rw [hv, hnull] at hdec
        cases hdec
      | _ =>
        rw [hv] at hdec
        simp [hv, hdec]
  valid v o h := by
    cases o with
    | none => trivial
    | some a =>
      split at h
      · cases h
      · rename_i hv
        obtain ⟨b, hb, hba⟩ := Option.map_eq_some_iff.mp h
        cases hba
        exact c.valid _ _ hb

@[simp] theorem option_valid_iff (c : Codec α) (h : c.decode .null = none) (o : Option α) :
    (c.option h).Valid o ↔ ∀ a ∈ o, c.Valid a := by
  cases o <;> simp [option]

theorem valid_none (c : Codec α) (h : c.decode .null = none) : (c.option h).Valid none := trivial

/-! ## Lists -/

theorem mapM_eq_some_iff {f : α → Option β} {l : List α} {bs : List β} :
    l.mapM f = some bs ↔ List.Forall₂ (fun a b => f a = some b) l bs := by
  induction l generalizing bs with
  | nil => cases bs <;> simp
  | cons a l ih =>
    cases bs with
    | nil => simp [Option.bind_eq_some_iff]
    | cons b bs => simp [Option.bind_eq_some_iff, ← ih]

theorem mapM_map {f : β → Option α} {g : α → β} {l : List α} (h : ∀ a ∈ l, f (g a) = some a) :
    (l.map g).mapM f = some l := by
  rw [mapM_eq_some_iff, List.forall₂_map_left_iff, List.forall₂_same]
  exact h

theorem mem_of_mapM {f : α → Option β} {l : List α} {bs : List β} (h : l.mapM f = some bs) {b : β}
    (hb : b ∈ bs) : ∃ a ∈ l, f a = some b := by
  have hall := mapM_eq_some_iff.mp h
  clear h
  induction hall with
  | nil => cases hb
  | cons ha _ ih =>
    obtain rfl | hb := List.mem_cons.mp hb
    · exact ⟨_, List.mem_cons_self, ha⟩
    · obtain ⟨a, hmem, hfa⟩ := ih hb
      exact ⟨a, List.mem_cons_of_mem _ hmem, hfa⟩

def list (c : Codec α) : Codec (List α) where
  decode
    | .arr items => items.mapM c.decode
    | _ => none
  encode l := .arr (l.map c.encode)
  Valid l := ∀ a ∈ l, c.Valid a
  decode_encode l h := mapM_map fun a ha => c.decode_encode a (h a ha)
  valid v l h a ha := by
    split at h
    · obtain ⟨item, -, hitem⟩ := mem_of_mapM h ha
      exact c.valid item a hitem
    · cases h

@[simp] theorem list_valid_iff (c : Codec α) (l : List α) :
    c.list.Valid l ↔ ∀ a ∈ l, c.Valid a := .rfl

theorem valid_nil (c : Codec α) : c.list.Valid [] := (list_valid_iff c []).mpr nofun

/-! ## Maps -/

/-- A later member with the same key takes the place of an earlier one. -/
def insertKey (l : List (String × α)) (e : String × α) : List (String × α) :=
  if e.1 ∈ l.map Prod.fst then l.map fun x => if x.1 = e.1 then e else x else l ++ [e]

def ofMembers (ms : List (String × α)) : List (String × α) := ms.foldl insertKey []

theorem insertKey_nodup {l : List (String × α)} (h : (l.map Prod.fst).Nodup) (e : String × α) :
    ((insertKey l e).map Prod.fst).Nodup := by
  unfold insertKey
  split
  · have hkeys : (l.map fun x => if x.1 = e.1 then e else x).map Prod.fst = l.map Prod.fst := by
      rw [List.map_map]
      apply List.map_congr_left
      intro x _
      by_cases hx : x.1 = e.1 <;> simp [hx]
    rwa [hkeys]
  · rename_i hnew
    rw [List.map_append, List.nodup_append]
    refine ⟨h, by simp, fun k hk k' hk' hkk => hnew ?_⟩
    rw [← List.mem_singleton.mp hk', ← hkk]
    exact hk

theorem mem_insertKey {l : List (String × α)} {e x : String × α} (h : x ∈ insertKey l e) :
    x ∈ l ∨ x = e := by
  unfold insertKey at h
  split at h
  · obtain ⟨y, hy, rfl⟩ := List.mem_map.mp h
    by_cases hk : y.1 = e.1
    · exact .inr (by simp [hk])
    · exact .inl (by simpa [hk] using hy)
  · obtain h | h := List.mem_append.mp h
    · exact .inl h
    · exact .inr (List.mem_singleton.mp h)

theorem ofMembers_nodup (ms : List (String × α)) : ((ofMembers ms).map Prod.fst).Nodup := by
  have hfold : ∀ l : List (String × α), (l.map Prod.fst).Nodup →
      ((ms.foldl insertKey l).map Prod.fst).Nodup := by
    induction ms with
    | nil => exact fun l h => h
    | cons e ms ih => exact fun l h => ih _ (insertKey_nodup h e)
  exact hfold [] List.nodup_nil

theorem mem_foldl_insertKey {ms l : List (String × α)} {x : String × α}
    (h : x ∈ ms.foldl insertKey l) : x ∈ l ∨ x ∈ ms := by
  induction ms generalizing l with
  | nil => exact .inl h
  | cons e ms ih =>
    obtain hx | hx := ih h
    · obtain hx | rfl := mem_insertKey hx
      · exact .inl hx
      · exact .inr List.mem_cons_self
    · exact .inr (List.mem_cons_of_mem _ hx)

theorem mem_ofMembers {ms : List (String × α)} {x : String × α} (h : x ∈ ofMembers ms) :
    x ∈ ms := by
  obtain hnil | hx := mem_foldl_insertKey h
  · cases hnil
  · exact hx

theorem foldl_insertKey_of_nodup {ms l : List (String × α)}
    (h : ((l ++ ms).map Prod.fst).Nodup) : ms.foldl insertKey l = l ++ ms := by
  induction ms generalizing l with
  | nil => exact (List.append_nil l).symm
  | cons e ms ih =>
    have hnew : e.1 ∉ l.map Prod.fst := by
      rw [List.map_append, List.nodup_append] at h
      exact fun he => h.2.2 _ he _ List.mem_cons_self rfl
    rw [List.foldl_cons, insertKey, if_neg hnew, ih, List.append_assoc]
    · rfl
    · rwa [List.append_assoc]

/-- Members that do not repeat are kept as they are. -/
theorem ofMembers_of_nodup {ms : List (String × α)} (h : (ms.map Prod.fst).Nodup) :
    ofMembers ms = ms :=
  foldl_insertKey_of_nodup h

def member (c : Codec α) (e : String × Value) : Option (String × α) :=
  (c.decode e.2).map fun a => (e.1, a)

def dict (c : Codec α) : Codec (List (String × α)) where
  decode
    | .obj ms => (ms.mapM c.member).map ofMembers
    | _ => none
  encode l := .obj (l.map fun e => (e.1, c.encode e.2))
  Valid l := (l.map Prod.fst).Nodup ∧ ∀ e ∈ l, c.Valid e.2
  decode_encode l h := by
    have hall : (l.map fun e => (e.1, c.encode e.2)).mapM c.member = some l :=
      mapM_map fun e he => by simp [member, c.decode_encode e.2 (h.2 e he)]
    simp only [hall, Option.map_some, ofMembers_of_nodup h.1]
  valid v l h := by
    split at h
    · obtain ⟨es, hes, rfl⟩ := Option.map_eq_some_iff.mp h
      refine ⟨ofMembers_nodup es, fun e he => ?_⟩
      obtain ⟨m, -, hm⟩ := mem_of_mapM hes (mem_ofMembers he)
      obtain ⟨a, ha, rfl⟩ := Option.map_eq_some_iff.mp hm
      exact c.valid m.2 a ha
    · cases h

/-! ## Other types -/

/-- A type that goes as its text. What is read from a text can be printed. -/
def text (print : α → String) (parse : String → Option α)
    (h : ∀ s a, parse s = some a → parse (print a) = some a) : Codec α where
  decode
    | .str s => parse s
    | _ => none
  encode a := .str (print a)
  Valid a := parse (print a) = some a
  decode_encode _ h := h
  valid v a hv := by
    split at hv
    · exact h _ a hv
    · cases hv

theorem text_decode_iff {print : α → String} {parse : String → Option α}
    {h : ∀ s a, parse s = some a → parse (print a) = some a} {v : Value} {a : α} :
    (text print parse h).decode v = some a ↔ ∃ s, v = .str s ∧ parse s = some a := by
  cases v with
  | str s => simp [text]
  | _ => simp [text]

/-- A type that has the values that can be read. -/
def iso (c : Codec α) (f : (a : α) → c.Valid a → β) (g : β → α)
    (fg : ∀ b h, f (g b) h = b) (gf : ∀ a h, g (f a h) = a) : Codec β where
  decode v := (c.decode v).pmap f (c.valid v)
  encode b := c.encode (g b)
  Valid b := c.Valid (g b)
  decode_encode b h := by
    rw [Option.pmap_eq_some_iff]
    exact ⟨g b, h, c.decode_encode _ h, (fg b h).symm⟩
  valid v b h := by
    obtain ⟨a, ha, -, rfl⟩ := Option.pmap_eq_some_iff.mp h
    rwa [gf]

end Codec

end Json
