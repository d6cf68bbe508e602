import Mathlib.Logic.Function.Basic

/-!
# Paths and files

Paths are lists of components, as path libraries compare them: repeated
separators and `.` do not count. A file system maps each path to what a read of
it returns, so a missing file and an unreadable one are told apart by the kind
of the error. Directories hold no data of their own and are not represented.
-/
namespace Files

structure Path where
  absolute : Bool
  components : List String
  deriving DecidableEq, Repr

/-- The components between the separators, without the empty ones and `.`. -/
def pieces (s : String) : List String :=
  ((s.toList.splitOn '/').map String.ofList).filter fun c => c ≠ "" ∧ c ≠ "."

def Path.ofString (s : String) : Path :=
  ⟨s.toList.head? = some '/', pieces s⟩

/-- Joining an absolute path replaces the path it is joined to. -/
def Path.join (p : Path) (s : String) : Path :=
  let q := Path.ofString s
  if q.absolute then q else ⟨p.absolute, p.components ++ q.components⟩

/-- One component that stays below the directory it is joined to. -/
structure SafeComponent (s : String) : Prop where
  nonempty : s ≠ ""
  notDot : s ≠ "."
  notDotDot : s ≠ ".."
  noSeparator : '/' ∉ s.toList

theorem pieces_of_noSeparator (s : String) (h : '/' ∉ s.toList) (hn : s ≠ "") (hd : s ≠ ".") :
    pieces s = [s] := by
  have hs : s.toList.splitOn '/' = [s.toList] := by
    apply List.splitOnP_eq_singleton
    intro c hc
    simp only [beq_eq_false_iff_ne]
    rintro rfl
    exact h hc
  simp [pieces, hs, hn, hd]

theorem ofString_of_noSeparator (s : String) (h : '/' ∉ s.toList) (hn : s ≠ "") (hd : s ≠ ".") :
    Path.ofString s = ⟨false, [s]⟩ := by
  have hh : ¬ s.toList.head? = some '/' := fun he => h (List.mem_of_mem_head? he)
  simp [Path.ofString, pieces_of_noSeparator s h hn hd, hh]

/-- A safe component adds exactly itself. -/
theorem join_safe (p : Path) (s : String) (h : SafeComponent s) :
    p.join s = ⟨p.absolute, p.components ++ [s]⟩ := by
  simp [Path.join, ofString_of_noSeparator s h.noSeparator h.nonempty h.notDot]

theorem join_safe_inj (p : Path) {s t : String} (hs : SafeComponent s) (ht : SafeComponent t)
    (h : p.join s = p.join t) : s = t := by
  rw [join_safe p s hs, join_safe p t ht] at h
  simpa using h

inductive IoErrorKind where
  | notFound | permissionDenied | isADirectory | other
  deriving DecidableEq, Repr

structure IoError where
  kind : IoErrorKind
  message : String
  deriving DecidableEq, Repr

abbrev Bytes := List UInt8

/-- What a read of the path returns. -/
abbrev Node := Except IoError Bytes

abbrev Fs := Path → Node

def absent : Node := .error ⟨.notFound, "No such file or directory"⟩

def read (fs : Fs) (p : Path) : Except IoError Bytes := fs p

/-- A removal with its outcome: a path that could not be removed is left as it was. -/
def removeFile (outcome : Except IoError Unit) (fs : Fs) (p : Path) : Fs :=
  match outcome with
  | .ok () => Function.update fs p absent
  | .error _ => fs

@[simp] theorem removeFile_other (outcome : Except IoError Unit) (fs : Fs) {p q : Path}
    (h : q ≠ p) : removeFile outcome fs p q = fs q := by
  cases outcome with
  | ok _ => exact Function.update_of_ne h ..
  | error _ => rfl

@[simp] theorem removeFile_ok (fs : Fs) (p : Path) : removeFile (.ok ()) fs p p = absent :=
  Function.update_self ..

@[simp] theorem removeFile_error (e : IoError) (fs : Fs) (p : Path) :
    removeFile (.error e) fs p = fs := rfl

theorem removeFile_same_congr (outcome : Except IoError Unit) {fs gs : Fs} {p : Path}
    (h : fs p = gs p) : removeFile outcome fs p p = removeFile outcome gs p p := by
  cases outcome with
  | ok _ => rw [removeFile_ok, removeFile_ok]
  | error e => exact h

end Files
