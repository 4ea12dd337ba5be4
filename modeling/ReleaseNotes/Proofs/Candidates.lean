import ReleaseNotes.Proofs.Decoration

/-! The candidates of a body as what a single pass finds. The tests in front of the cleaning decide nothing
that the test behind it would not, so each line is cleaned and kept if it is a header then; and a list
of headers, however its lines are dressed and ended, has these headers for its candidates. -/
namespace ReleaseNotes

open Text

namespace Line

theorem withoutMarkers_of_not_isListItem {line : Text} (plain : isListItem line = false) :
    withoutMarkers line = trim line := by
  rw [← cleaned_eq_withoutMarkers, cleaned, plain, if_neg Bool.false_ne_true]

/-- The first character of a heading opens no list item. -/
theorem exists_trim_of_isHeading {line : Text} (heading : isHeading line = true) :
    isListItem line = false ∧ ∃ rest, trim line = '#' :: rest := by
  obtain ⟨rest, first⟩ : ∃ rest, trimStart line = '#' :: rest := by
    cases start : trimStart line with
    | nil => simp [isHeading, start] at heading
    | cons c rest =>
      simp only [isHeading, start, List.head?_cons, beq_iff_eq, Option.some.injEq] at heading
      exact ⟨rest, by rw [heading]⟩
  constructor
  · simp only [isListItem, first, afterBullet?_of_first rest (by decide : '#' ≠ '-') (by decide),
      afterNumber?_of_first rest (by decide : isDigit '#' = false), Option.any_none, Bool.or_self]
  · obtain ⟨gap, cut, blank⟩ := exists_trimEnd (trimStart line)
    change trimStart line = trim line ++ gap at cut
    rw [first] at cut
    cases whole : trim line with
    | nil =>
      rw [whole, List.nil_append] at cut
      have space : isSpace '#' = true := blank '#' (by simp [← cut])
      exact absurd space (by decide)
    | cons c more =>
      rw [whole, List.cons_append, List.cons.injEq] at cut
      exact ⟨more, by rw [← cut.1]⟩

theorem not_isHeader_of_isHeading {line : Text} (heading : isHeading line = true) :
    isHeader (withoutMarkers line) = false := by
  obtain ⟨plain, rest, whole⟩ := exists_trim_of_isHeading heading
  rw [withoutMarkers_of_not_isListItem plain]
  by_contra header
  rw [Bool.not_eq_false] at header
  obtain ⟨c, more, first, noMark, -⟩ :=
    exists_first_of_isHeader (trimmed_trim (by simp [whole])) header
  rw [whole, List.cons.injEq] at first
  simp [← first.1] at noMark

theorem not_isHeader_of_isBlank {line : Text} (blank : isBlank line = true) :
    isHeader (withoutMarkers line) = false := by
  have nothing : trimStart line = [] := List.dropWhile_eq_nil_iff.mpr (List.all_eq_true.mp blank)
  have plain : isListItem line = false := by simp [isListItem, nothing, afterBullet?, afterNumber?]
  rw [withoutMarkers_of_not_isListItem plain, trim, nothing]
  exact not_isHeader_nil

theorem candidate?_eq_guard (line : Text) :
    candidate? line = Option.guard isHeader (withoutMarkers line) := by
  rw [candidate?, cleaned_eq_withoutMarkers, Option.guard]
  by_cases passed : (isBlank line || isHeading line) = true
  · have noHeader : isHeader (withoutMarkers line) = false := by
      rcases Bool.or_eq_true_iff.mp passed with blank | heading
      · exact not_isHeader_of_isBlank blank
      · exact not_isHeader_of_isHeading heading
    rw [if_pos passed, noHeader, if_neg Bool.false_ne_true]
  · rw [if_neg passed]

end Line

/-- Cleaning each line and keeping the headers gives the candidates. A line that is no list item is only
trimmed by the cleaning, and out of a blank line or a heading it never makes a header. -/
theorem candidates_onePass (body : Text) :
    candidates body = ((lines body).map Line.withoutMarkers).filter isHeader ∧
    (∀ line, Line.isListItem line = false → Line.withoutMarkers line = trim line) ∧
    ∀ line, isBlank line = true ∨ Line.isHeading line = true →
      isHeader (Line.withoutMarkers line) = false := by
  refine ⟨?_, fun line plain => Line.withoutMarkers_of_not_isListItem plain, ?_⟩
  · rw [candidates, ← List.filterMap_eq_filter, List.filterMap_map]
    refine List.filterMap_congr fun line _ => ?_
    rw [Function.comp_apply, Line.candidate?_eq_guard]
  · rintro line (blank | heading)
    · exact Line.not_isHeader_of_isBlank blank
    · exact Line.not_isHeader_of_isHeading heading

/-- A heading that reads like a header, a bullet and a number behind space that is no line break, a bullet
with nothing behind it, and a bare header. -/
theorem candidates_onePass_mixed :
    let body := "\u00a0# feat: a\n \u2003- \u0661.\u3000fix: b\u001c* \r\nci: c ".toList
    candidates body = ["fix: b".toList, "ci: c".toList] ∧
      Line.withoutMarkers "* ".toList = trim "* ".toList ∧
      isHeader (Line.withoutMarkers "\u00a0# feat: a".toList) = false := by
  intro body
  obtain ⟨onePass, plain, passed⟩ := candidates_onePass body
  have cleaned : (lines body).map Line.withoutMarkers =
      ["# feat: a".toList, "fix: b".toList, "*".toList, "ci: c".toList] := by decide +kernel
  refine ⟨?_, plain _ (by decide), passed _ (.inr (by decide))⟩
  rw [onePass, cleaned]
  decide +kernel

/-- A line of a list: a header in its decoration, and what ends the line. -/
structure ListLine where
  decoration : Decoration
  entry : Text
  ending : Text
  /-- The line, its decoration included, is a single line. -/
  unbroken : Unbroken (decoration.around entry)
  starts : StartsSolid entry
  ends : EndsSolid entry
  header : isHeader entry = true
  ended : IsSeparator ending

namespace ListLine

def text (line : ListLine) : Text :=
  line.decoration.around line.entry ++ line.ending

theorem trimmed (line : ListLine) : Trimmed line.entry := by
  refine ⟨fun nothing => ?_, line.starts, line.ends⟩
  have header := line.header
  rw [nothing, not_isHeader_nil] at header
  contradiction

theorem candidates_text_append (line : ListLine) (rest : Text) :
    candidates (line.text ++ rest) = line.entry :: candidates rest := by
  rw [text, candidates_append_separator line.ended, candidates_of_unbroken line.unbroken,
    Line.candidate?_around line.decoration line.trimmed line.header]
  rfl

/-- The candidates of a list are its entries, whatever stands around each and ends its line. -/
theorem candidates_list (list : List ListLine) : candidates (list.flatMap text) = list.map entry := by
  induction list with
  | nil => rfl
  | cons line rest ih => rw [List.flatMap_cons, candidates_text_append, ih, List.map_cons]

def numbered : ListLine where
  decoration := {
    before := "\u3000".toList
    bullet := "-\t".toList
    number := "\u0661\u0662.\u00a0".toList
    after := "".toList
    blankBefore := (by decide : Gap "\u3000".toList).blank
    bulleted := .inr ⟨'-', "\t".toList, rfl, .inl rfl, by decide⟩
    numbered := .inr ⟨"\u0661\u0662".toList, "\u00a0".toList, rfl, by simp,
      List.all_eq_true.mp (by decide), by decide⟩
    blankAfter := by simp }
  entry := "feat: a".toList
  ending := ['\r']
  unbroken := by decide
  starts := by decide
  ends := by decide
  header := by decide
  ended := .inr ⟨'\r', by decide, rfl⟩

/-- An entry with a mark within, and nothing but space around it. -/
def unmarked : ListLine where
  decoration := {
    before := "".toList
    bullet := "".toList
    number := "".toList
    after := " ".toList
    blankBefore := by simp
    bulleted := .inl rfl
    numbered := .inl rfl
    blankAfter := (by decide : Gap " ".toList).blank }
  entry := "fix: - b".toList
  ending := ['\r', '\n']
  unbroken := by decide
  starts := by decide
  ends := by decide
  header := by decide
  ended := .inl rfl

theorem candidates_list_numbered_unmarked :
    candidates "\u3000-\t\u0661\u0662.\u00a0feat: a\rfix: - b \r\n".toList =
      ["feat: a".toList, "fix: - b".toList] := by
  have written : [numbered, unmarked].flatMap text =
      "\u3000-\t\u0661\u0662.\u00a0feat: a\rfix: - b \r\n".toList := by decide +kernel
  rw [← written]
  exact candidates_list [numbered, unmarked]

end ListLine

end ReleaseNotes
