import Mathlib.Algebra.GroupWithZero.Nat
import Mathlib.Data.List.DropRight
import ReleaseNotes.Changelog.Sections

/-! Sections by their history. Whatever has been pushed and reset, each section holds what was pushed to it
since the last reset, in that order, and all views of the sections agree on that. -/
namespace ReleaseNotes.Sections

/-- What can be done to the sections. -/
inductive Step where
  | push (target : Section) (entry : Text)
  | reset
  deriving DecidableEq, Repr

def Step.pushed? : Step → Option (Section × Text)
  | .push target entry => some (target, entry)
  | .reset => none

def step (sections : Sections) : Step → Sections
  | .push target entry => sections.push target entry
  | .reset => empty

def run (steps : List Step) : Sections :=
  steps.foldl step empty

/-- The pushes behind the last reset. -/
def pushes (steps : List Step) : List (Section × Text) :=
  (steps.rtakeWhile (·.pushed?.isSome)).filterMap Step.pushed?

/-- The entries that some pushes put into a section. -/
def entriesOf (s : Section) (pushes : List (Section × Text)) : List Text :=
  (pushes.filter (·.1 == s)).map (·.2)

@[simp] theorem pushes_append_push (steps : List Step) (target : Section) (entry : Text) :
    pushes (steps ++ [.push target entry]) = pushes steps ++ [(target, entry)] := by
  unfold pushes
  rw [List.rtakeWhile_concat_pos _ _ _ rfl, List.filterMap_append]
  rfl

@[simp] theorem pushes_append_reset (steps : List Step) : pushes (steps ++ [.reset]) = [] := by
  unfold pushes
  rw [List.rtakeWhile_concat_neg _ _ _ (by simp [Step.pushed?])]
  rfl

@[simp] theorem run_append (steps : List Step) (last : Step) :
    run (steps ++ [last]) = (run steps).step last := by
  simp [run]

theorem get_push (sections : Sections) (s : Section) (entry : Text) (t : Section) :
    (sections.push s entry).get t = if s = t then sections.get t ++ [entry] else sections.get t := by
  split
  case isTrue same =>
    subst same
    exact get_push_self sections s entry
  case isFalse apart => exact get_push_of_ne sections entry apart

theorem entriesOf_append (s : Section) (pushes : List (Section × Text)) (target : Section) (entry : Text) :
    entriesOf s (pushes ++ [(target, entry)]) =
      if target = s then entriesOf s pushes ++ [entry] else entriesOf s pushes := by
  by_cases same : target = s <;> simp [entriesOf, same]

/-- The sections hold what some pushes put into them and nothing else. -/
structure Holds (sections : Sections) (pushes : List (Section × Text)) : Prop where
  get : ∀ s, sections.get s = entriesOf s pushes
  size : sections.size = pushes.length

theorem holds_empty : Holds empty [] where
  get := get_empty
  size := rfl

theorem Holds.push {sections : Sections} {pushes : List (Section × Text)} (holds : Holds sections pushes)
    (target : Section) (entry : Text) :
    Holds (sections.push target entry) (pushes ++ [(target, entry)]) where
  get s := by
    rw [get_push, entriesOf_append, holds.get]
  size := by
    rw [size_push, holds.size, List.length_append, List.length_singleton]

theorem holds_run (steps : List Step) : Holds (run steps) (pushes steps) := by
  -- The induction takes the last step off, as a reset forgets what was in front of it.
  induction steps using List.reverseRecOn with
  | nil => exact holds_empty
  | append_singleton steps last ih =>
    rw [run_append]
    cases last with
    | push target entry =>
      rw [pushes_append_push]
      exact ih.push target entry
    | reset =>
      rw [pushes_append_reset]
      exact holds_empty

theorem isEmpty_iff (sections : Sections) : sections.isEmpty = true ↔ sections.size = 0 := by
  rw [isEmpty, size, List.isEmpty_iff, List.length_eq_zero_iff]

theorem counts_eq (sections : Sections) :
    sections.counts =
      (Section.all.filter fun s => sections.get s ≠ []).map fun s => (s, (sections.get s).length) := by
  unfold counts toList
  rw [List.map_map, List.filter_map]
  congr 2
  funext s
  simp [List.length_pos_iff]

theorem size_eq_sum (sections : Sections) :
    sections.size = (sections.toList.map fun (_, entries) => entries.length).sum := by
  unfold size entries
  rw [List.length_flatMap]

theorem sum_counts (sections : Sections) : (sections.counts.map (·.2)).sum = sections.size := by
  rw [size_eq_sum, counts]
  induction sections.toList with
  | nil => rfl
  | cons pair rest ih =>
    obtain ⟨s, entries⟩ := pair
    cases entries with
    | nil => simpa using ih
    | cons entry entries => simpa using ih

/-- After any steps, and so at each point of a run, a section holds the entries pushed to it since the last
reset, in their order. All sections are listed with them, in order; the size is the number of pushes
since then; the counts leave out the empty sections and sum to the size; and a push changes only the
section it goes to. -/
theorem history_exact (steps : List Step) :
    (∀ s, (run steps).get s = entriesOf s (pushes steps)) ∧
    (run steps).toList = [.added, .changed, .deprecated, .removed, .fixed, .security, .other].map
      (fun s => (s, entriesOf s (pushes steps))) ∧
    (run steps).size = (pushes steps).length ∧
    ((run steps).isEmpty = true ↔ (pushes steps).length = 0) ∧
    (run steps).counts = ([.added, .changed, .deprecated, .removed, .fixed, .security, .other].filter
      fun s => entriesOf s (pushes steps) ≠ []).map (fun s => (s, (entriesOf s (pushes steps)).length)) ∧
    ((run steps).counts.map (·.2)).sum = (run steps).size ∧
    ∀ s entry t, (run (steps ++ [.push s entry])).get t =
      if s = t then (run steps).get t ++ [entry] else (run steps).get t := by
  obtain ⟨held, size⟩ := holds_run steps
  refine ⟨held, ?_, size, ?_, ?_, sum_counts _, ?_⟩
  · simp only [toList, Section.all, held]
  · rw [isEmpty_iff, size]
  · simp only [counts_eq, Section.all, held]
  · intro s entry t
    rw [run_append]
    exact get_push _ _ _ _

end ReleaseNotes.Sections
