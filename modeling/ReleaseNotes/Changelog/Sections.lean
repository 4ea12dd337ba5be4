import ReleaseNotes.Changelog.Section

/-! Entries by section. Every section is always there, if only as an empty list. -/
namespace ReleaseNotes

structure Sections where
  added : List Text := []
  changed : List Text := []
  deprecated : List Text := []
  removed : List Text := []
  fixed : List Text := []
  security : List Text := []
  other : List Text := []
  deriving DecidableEq, Repr

namespace Sections

def empty : Sections := {}

def get (sections : Sections) : Section → List Text
  | .added => sections.added
  | .changed => sections.changed
  | .deprecated => sections.deprecated
  | .removed => sections.removed
  | .fixed => sections.fixed
  | .security => sections.security
  | .other => sections.other

def push (sections : Sections) (s : Section) (entry : Text) : Sections :=
  match s with
  | .added => { sections with added := sections.added ++ [entry] }
  | .changed => { sections with changed := sections.changed ++ [entry] }
  | .deprecated => { sections with deprecated := sections.deprecated ++ [entry] }
  | .removed => { sections with removed := sections.removed ++ [entry] }
  | .fixed => { sections with fixed := sections.fixed ++ [entry] }
  | .security => { sections with security := sections.security ++ [entry] }
  | .other => { sections with other := sections.other ++ [entry] }

def toList (sections : Sections) : List (Section × List Text) :=
  Section.all.map fun s => (s, sections.get s)

def entries (sections : Sections) : List Text :=
  sections.toList.flatMap (·.2)

def size (sections : Sections) : Nat :=
  sections.entries.length

def isEmpty (sections : Sections) : Bool :=
  sections.entries.isEmpty

/-- The sections that have entries, in order, with the number of them. -/
def counts (sections : Sections) : List (Section × Nat) :=
  (sections.toList.map fun (s, entries) => (s, entries.length)).filter (0 < ·.2)

/-- Puts each entry at the end of the section chosen for it. -/
def place (target : Text → Section) (entries : List Text) : Sections :=
  entries.foldl (fun sections entry => sections.push (target entry) entry) empty

@[simp] theorem get_empty (s : Section) : empty.get s = [] := by
  cases s <;> rfl

@[simp] theorem get_push_self (sections : Sections) (s : Section) (entry : Text) :
    (sections.push s entry).get s = sections.get s ++ [entry] := by
  cases s <;> rfl

theorem get_push_of_ne (sections : Sections) {s t : Section} (entry : Text) (apart : s ≠ t) :
    (sections.push s entry).get t = sections.get t := by
  cases s <;> cases t <;> simp_all [push, get]

theorem get_foldl_push (target : Text → Section) (entries : List Text) (sections : Sections)
    (s : Section) :
    (entries.foldl (fun sections entry => sections.push (target entry) entry) sections).get s =
      sections.get s ++ entries.filter (target · == s) := by
  induction entries generalizing sections with
  | nil => simp
  | cons entry rest ih =>
    rw [List.foldl_cons, ih]
    by_cases chosen : target entry = s
    · subst chosen
      simp
    · simp [get_push_of_ne sections entry chosen, chosen]

@[simp] theorem get_place (target : Text → Section) (entries : List Text) (s : Section) :
    (place target entries).get s = entries.filter (target · == s) := by
  simp [place, get_foldl_push]

@[simp] theorem size_push (sections : Sections) (s : Section) (entry : Text) :
    (sections.push s entry).size = sections.size + 1 := by
  cases s <;> simp [size, entries, toList, Section.all, push, get] <;> omega

theorem ext_get {a b : Sections} (same : ∀ s, a.get s = b.get s) : a = b := by
  cases a; cases b
  simp only [mk.injEq]
  exact ⟨same .added, same .changed, same .deprecated, same .removed, same .fixed, same .security,
    same .other⟩

end Sections

end ReleaseNotes
