import Mathlib.Data.List.Forall2
import ReleaseNotes.Proofs.Changelog

/-! Bodies that differ only in the characters that end their lines. Putting one break for another may make a
carriage return and a line feed out of two breaks or take such a pair apart, which adds or removes a
blank line; what the lines hold stays the same, and with it the changelog. -/
namespace ReleaseNotes

open Text

/-- The same character, or a break for a break. -/
def SameButBreak (c d : Char) : Prop :=
  c = d ∨ (isLineBreak c = true ∧ isLineBreak d = true)

instance (c d : Char) : Decidable (SameButBreak c d) :=
  inferInstanceAs (Decidable (_ ∨ _))

/-- Texts of one length that agree wherever they do not both have a break. -/
def SameButBreaks (a b : Text) : Prop :=
  List.Forall₂ SameButBreak a b

instance (a b : Text) : Decidable (SameButBreaks a b) :=
  inferInstanceAs (Decidable (List.Forall₂ SameButBreak a b))

theorem SameButBreak.eq_of_not_break {c d : Char} (same : SameButBreak c d)
    (inside : isLineBreak c = false) : c = d := by
  rcases same with equal | ⟨broken, -⟩
  · exact equal
  · rw [inside] at broken
    contradiction

theorem SameButBreak.isLineBreak_eq {c d : Char} (same : SameButBreak c d) :
    isLineBreak c = isLineBreak d := by
  rcases same with rfl | ⟨first, second⟩
  · rfl
  · rw [first, second]

theorem SameButBreaks.exists_append {line a b : Text} (same : SameButBreaks (line ++ a) b)
    (unbroken : Unbroken line) : ∃ rest, b = line ++ rest ∧ SameButBreaks a rest := by
  induction line generalizing b with
  | nil => exact ⟨b, rfl, same⟩
  | cons c line ih =>
    obtain ⟨d, more, first, tail, rfl⟩ := List.forall₂_cons_left_iff.mp same
    obtain ⟨rest, rfl, behind⟩ := ih tail fun e member => unbroken e (by simp [member])
    obtain rfl := first.eq_of_not_break (unbroken c (by simp))
    exact ⟨rest, rfl, behind⟩

theorem SameButBreaks.candidates_eq {a b : Text} (same : SameButBreaks a b) :
    candidates a = candidates b := by
  induction a using lineInduction generalizing b with
  | last line unbroken =>
    obtain ⟨rest, rfl, nothing⟩ := exists_append (a := []) (by rwa [List.append_nil]) unbroken
    rw [List.forall₂_nil_left_iff.mp nothing, List.append_nil]
  | broken line c rest unbroken ended ih =>
    obtain ⟨behind, rfl, sameBehind⟩ := same.exists_append unbroken
    obtain ⟨d, others, first, tail, rfl⟩ := List.forall₂_cons_left_iff.mp sameBehind
    have alsoEnded : isLineBreak d = true := by rwa [← first.isLineBreak_eq]
    rw [candidates_append_break unbroken ended, candidates_append_break unbroken alsoEnded, ih tail]

theorem SameButBreaks.entries_eq {a b : Text} (same : SameButBreaks a b) : entries a = entries b :=
  congrArg kept same.candidates_eq

/-- Releases whose bodies differ only in the choice of breaks have the same candidates, entries and
changelog. -/
theorem Release.changelog_eq_of_sameButBreaks (first second : Release)
    (same : SameButBreaks first.body second.body) :
    candidates first.body = candidates second.body ∧ first.entries = second.entries ∧
      first.document.changelog = second.document.changelog := by
  have entries : first.entries = second.entries := same.entries_eq
  refine ⟨same.candidates_eq, entries, Sections.ext_get fun s => ?_⟩
  rw [section_eq_filter, section_eq_filter, entries]

/-- One pair of a carriage return and a line feed is taken apart and another one is made. -/
theorem Release.changelog_eq_across_pairs :
    let first : Release := { body := "* feat: a\r\n* fix: b\n\n* fix: c\u2028".toList }
    let second : Release := { body := "* feat: a\n\x1c* fix: b\r\n* fix: c\r".toList }
    SameButBreaks first.body second.body ∧ lines first.body ≠ lines second.body ∧
      first.document.changelog = second.document.changelog := by
  intro first second
  have same : SameButBreaks first.body second.body := by decide
  refine ⟨same, ?_, (changelog_eq_of_sameButBreaks first second same).2.2⟩
  decide

end ReleaseNotes
