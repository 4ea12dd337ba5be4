import Mathlib.Data.List.Nodup
import ReleaseNotes.Notes.Entry

/-! What is kept of a list of lines: its lines that are no dependency updates, each where it occurs first. -/
namespace ReleaseNotes

/-- Induction as repetitions go: behind a line stand those of the rest that differ from it. -/
theorem eraseDups_induction {motive : List Text → Prop} (nil : motive [])
    (cons : ∀ line rest, motive (rest.filter fun other => !other == line) → motive (line :: rest))
    (lines : List Text) : motive lines :=
  match lines with
  | [] => nil
  | line :: rest => cons line rest (eraseDups_induction nil cons _)
termination_by lines.length
decreasing_by
  have fewer := List.length_filter_le (fun other => !other == line) rest
  simp
  omega

theorem nodup_eraseDups (lines : List Text) : lines.eraseDups.Nodup := by
  induction lines using eraseDups_induction with
  | nil => simp
  | cons line rest ih =>
    rw [List.eraseDups_cons, List.nodup_cons]
    exact ⟨by simp [List.mem_eraseDups], ih⟩

theorem eraseDups_sublist (lines : List Text) : lines.eraseDups.Sublist lines := by
  induction lines using eraseDups_induction with
  | nil => simp
  | cons line rest ih =>
    rw [List.eraseDups_cons]
    exact (ih.trans List.filter_sublist).cons_cons line

theorem eraseDups_filter (p : Text → Bool) (lines : List Text) :
    (lines.filter p).eraseDups = lines.eraseDups.filter p := by
  induction lines using eraseDups_induction with
  | nil => rfl
  | cons line rest ih =>
    by_cases holds : p line = true
    · rw [List.filter_cons_of_pos holds, List.eraseDups_cons, List.eraseDups_cons,
        List.filter_cons_of_pos holds, ← ih, List.filter_filter, List.filter_filter]
      simp only [Bool.and_comm]
    · rw [List.filter_cons_of_neg holds, List.eraseDups_cons, List.filter_cons_of_neg holds, ← ih,
        List.filter_filter]
      congr 1
      apply List.filter_congr
      intro other _
      by_cases same : other = line
      · subst same
        simp [holds]
      · simp [same]

theorem eraseDups_of_nodup {lines : List Text} (nodup : lines.Nodup) : lines.eraseDups = lines := by
  induction lines with
  | nil => rfl
  | cons line rest ih =>
    obtain ⟨fresh, nodupRest⟩ := List.nodup_cons.mp nodup
    have stays : (rest.filter fun other => !other == line) = rest := by
      apply List.filter_eq_self.mpr
      intro other member
      have differ : other ≠ line := fun same => fresh (same ▸ member)
      simp [differ]
    rw [List.eraseDups_cons, stays, ih nodupRest]

/-- Whether a line is no automatic dependency update. -/
def isOwn (line : Text) : Bool :=
  (bump? line).isNone

theorem isOwn_eq (line : Text) : isOwn line = !(Item.parse? line).any Item.isBump := by
  rw [isOwn, bump?]
  cases Item.parse? line with
  | none => rfl
  | some item => cases found : item.bump? <;> simp [Item.isBump, found]

def keptBehind (seen lines : List Text) : List Text :=
  ((rulingsAfter seen lines).filter (·.2 == .keep)).map (·.1)

theorem keptBehind_cons (seen : List Text) (line : Text) (rest : List Text) :
    keptBehind seen (line :: rest) =
      if isOwn line && !seen.contains line then line :: keptBehind (line :: seen) rest
      else keptBehind seen rest := by
  unfold keptBehind isOwn
  rw [rulingsAfter, rule]
  cases bump? line with
  | some found => rfl
  | none =>
    by_cases old : line ∈ seen <;> simp [old]

theorem keptBehind_eq (seen lines : List Text) :
    keptBehind seen lines = (lines.filter fun line => isOwn line && !seen.contains line).eraseDups := by
  induction lines generalizing seen with
  | nil => rfl
  | cons line rest ih =>
    rw [keptBehind_cons, List.filter_cons]
    by_cases stays : (isOwn line && !seen.contains line) = true
    · have narrower : (rest.filter fun other => isOwn other && !(line :: seen).contains other) =
          (rest.filter fun other => isOwn other && !seen.contains other).filter
            fun other => !other == line := by
        rw [List.filter_filter]
        apply List.filter_congr
        intro other _
        by_cases same : other = line <;> simp [same]
      rw [if_pos stays, if_pos stays, List.eraseDups_cons, ih, narrower]
    · rw [if_neg stays, if_neg stays, ih]

theorem kept_eq (lines : List Text) : kept lines = (lines.filter isOwn).eraseDups := by
  have whole := keptBehind_eq [] lines
  simp only [List.contains_nil, Bool.not_false, Bool.and_true] at whole
  exact whole

theorem nodup_kept (lines : List Text) : (kept lines).Nodup := by
  rw [kept_eq]
  exact nodup_eraseDups _

theorem mem_kept {line : Text} {lines : List Text} :
    line ∈ kept lines ↔ line ∈ lines ∧ isOwn line = true := by
  rw [kept_eq, List.mem_eraseDups, List.mem_filter]

theorem kept_of_nodup {lines : List Text} (nodup : lines.Nodup)
    (own : ∀ line ∈ lines, isOwn line = true) : kept lines = lines := by
  rw [kept_eq, List.filter_eq_self.mpr own, eraseDups_of_nodup nodup]

/-- Of lines that follow others, those stay that the others have not. -/
theorem kept_append (first second : List Text) :
    kept (first ++ second) = kept first ++ (kept second).filter (!(kept first).contains ·) := by
  have fresh : ((second.filter isOwn).removeAll (first.filter isOwn)).eraseDups =
      (kept second).filter (!(kept first).contains ·) := by
    rw [List.removeAll, eraseDups_filter, ← kept_eq]
    apply List.filter_congr
    intro line _
    have same : line ∈ first.filter isOwn ↔ line ∈ kept first := by
      rw [kept_eq, List.mem_eraseDups]
    simp [same]
  rw [kept_eq, List.filter_append, List.eraseDups_append, fresh, ← kept_eq]

/-- Dropping updates and dropping repetitions are two stages that may come in either order: what is left is a
part of the lines in their order, without repetitions, that has every line but the updates, and of which
nothing is dropped any more. -/
theorem kept_two_stages (lines : List Text) :
    kept lines = (lines.filter fun line => !(Item.parse? line).any Item.isBump).eraseDups ∧
    kept lines = lines.eraseDups.filter (fun line => !(Item.parse? line).any Item.isBump) ∧
    (kept lines).Sublist lines ∧ (kept lines).Nodup ∧
    (∀ line, line ∈ kept lines ↔ line ∈ lines ∧ (Item.parse? line).any Item.isBump = false) ∧
    kept (kept lines) = kept lines := by
  have own : (fun line => !(Item.parse? line).any Item.isBump) = isOwn :=
    funext fun line => (isOwn_eq line).symm
  have staged := kept_eq lines
  rw [own, ← eraseDups_filter]
  refine ⟨staged, staged, ?_, nodup_kept lines, fun line => ?_, ?_⟩
  · rw [staged]
    exact (eraseDups_sublist _).trans List.filter_sublist
  · rw [mem_kept, isOwn_eq, Bool.not_eq_true']
  · exact kept_of_nodup (nodup_kept lines) fun line member => (mem_kept.mp member).2

end ReleaseNotes
