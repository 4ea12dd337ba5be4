import ReleaseNotes.Proofs.Changelog
import ReleaseNotes.Proofs.Decoration

/-! Where the entries of a changelog come from. Each is one whole line of the body without its decoration,
so nothing is made up, joined or cut short, and nothing that could open a heading or a list item is left
in front of it. -/
namespace ReleaseNotes

open Text

/-- A whole line of a text: it has no break in it, and on either side of it there is a break or nothing. -/
def IsLineOf (line text : Text) : Prop :=
  Unbroken line ∧ ∃ before after, text = before ++ line ++ after ∧
    (∀ c, before.getLast? = some c → isLineBreak c = true) ∧
    ∀ c, after.head? = some c → isLineBreak c = true

theorem IsLineOf.isInfix {line text : Text} (whole : IsLineOf line text) : line <:+: text := by
  obtain ⟨-, before, after, rfl, -⟩ := whole
  exact List.infix_append before line after

theorem Unbroken.isLineOf {line : Text} (unbroken : Unbroken line) : IsLineOf line line :=
  ⟨unbroken, [], [], by simp, by simp, by simp⟩

theorem Unbroken.isLineOf_append {line : Text} (unbroken : Unbroken line) {c : Char}
    (broken : isLineBreak c = true) (rest : Text) : IsLineOf line (line ++ c :: rest) := by
  refine ⟨unbroken, [], c :: rest, by simp, by simp, ?_⟩
  intro d first
  obtain rfl := Option.some.inj first
  exact broken

theorem IsLineOf.behind_break {line rest : Text} (whole : IsLineOf line rest) {c : Char}
    (broken : isLineBreak c = true) (front : Text) : IsLineOf line (front ++ c :: rest) := by
  obtain ⟨unbroken, before, after, rfl, endsFront, startsAfter⟩ := whole
  refine ⟨unbroken, front ++ c :: before, after, by simp, fun d last => ?_, startsAfter⟩
  rw [List.getLast?_append_of_ne_nil front (by simp)] at last
  by_cases nothing : before = []
  · subst nothing
    obtain rfl := Option.some.inj last
    exact broken
  · rw [List.getLast?_cons_of_ne_nil nothing] at last
    exact endsFront d last

/-- Behind a carriage return a text has the same first line, unless it begins with the line feed that
belongs to the break in front of it. -/
theorem linesAfter_append_break (afterReturn : Bool) {line : Text} (unbroken : Unbroken line) {c : Char}
    (broken : isLineBreak c = true) (rest : Text) :
    linesAfter afterReturn (line ++ c :: rest) = line :: linesAfter (c == '\r') rest ∨
      linesAfter afterReturn (line ++ c :: rest) = linesAfter false rest := by
  cases line with
  | nil =>
    by_cases swallowed : (afterReturn && c == '\n') = true
    · right
      rw [List.nil_append, linesAfter, if_pos swallowed]
    · left
      rw [List.nil_append, linesAfter, if_neg swallowed, if_pos broken]
  | cons d line =>
    left
    rw [← lines_append_break unbroken broken rest, lines, List.cons_append,
      linesAfter_cons_of_not_break _ _ (unbroken d (by simp)),
      linesAfter_cons_of_not_break _ _ (unbroken d (by simp))]

/-- The lines a text is cut into are lines of it, also where a line feed belongs to the break in front. -/
theorem isLineOf_of_mem_linesAfter (afterReturn : Bool) (text : Text) :
    ∀ line ∈ linesAfter afterReturn text, IsLineOf line text := by
  induction text using lineInduction generalizing afterReturn with
  | last whole unbroken =>
    intro line member
    by_cases nothing : whole = []
    · subst nothing
      simp at member
    · rw [linesAfter_of_unbroken unbroken nothing, List.mem_singleton] at member
      exact member ▸ unbroken.isLineOf
  | broken front c rest unbroken ended ih =>
    intro line member
    rcases linesAfter_append_break afterReturn unbroken ended rest with own | swallowed
    · rw [own] at member
      rcases List.mem_cons.mp member with rfl | later
      · exact unbroken.isLineOf_append ended rest
      · exact (ih _ line later).behind_break ended front
    · rw [swallowed] at member
      exact (ih _ line member).behind_break ended front

theorem exists_line_of_mem_candidates {body entry : Text} (member : entry ∈ candidates body) :
    ∃ line, IsLineOf line body ∧ ∃ d : Decoration, d.around entry = line := by
  obtain ⟨line, inBody, holds⟩ := List.mem_filterMap.mp member
  exact ⟨line, isLineOf_of_mem_linesAfter false body line inBody,
    Line.exists_decoration_of_candidate? holds⟩

/-- An entry of a section is a line of the body less its decoration. It is a piece of the body on one
line, without space around it, it is a header, and it begins like neither a heading nor a list item. -/
theorem Release.entry_from_line (release : Release) {s : Section} {entry : Text}
    (placed : entry ∈ release.document.changelog.get s) :
    (∃ line, IsLineOf line release.body ∧ ∃ d : Decoration, d.around entry = line) ∧
    entry <:+: release.body ∧ entry ≠ [] ∧ Unbroken entry ∧ StartsSolid entry ∧ EndsSolid entry ∧
    isHeader entry = true ∧
    ∀ c, entry.head? = some c → c ≠ '#' ∧ c ≠ '-' ∧ c ≠ '*' ∧ isDigit c = false := by
  have candidate : entry ∈ candidates release.body :=
    (mem_kept.mp (release.mem_section_iff.mp placed).1).1
  obtain ⟨line, whole, d, dressed⟩ := exists_line_of_mem_candidates candidate
  obtain ⟨unbroken, trimmed, header⟩ := shape_of_mem_candidates candidate
  have inLine : entry <:+: line := dressed ▸ d.isInfix_around entry
  refine ⟨⟨line, whole, d, dressed⟩, inLine.trans whole.isInfix, trimmed.given, unbroken, trimmed.starts,
    trimmed.ends, header, ?_⟩
  obtain ⟨first, rest, opening, noMark, noDigit⟩ := Line.exists_first_of_isHeader trimmed header
  intro c atFirst
  obtain rfl : first = c := by simpa [opening] using atFirst
  simp only [List.mem_cons, List.not_mem_nil, or_false, not_or] at noMark
  exact ⟨noMark.1, noMark.2.1, noMark.2.2, noDigit⟩

/-- The middle line of three, with space, a bullet and a number in digits of Arabic script around its
entry; the breaks around it are no space. -/
theorem Release.entry_from_decorated_line :
    let release : Release := { body := "feat: a\x1c - \u0661.  fix: b \u001d* c".toList }
    "fix: b".toList ∈ release.document.changelog.get .fixed ∧
      ∃ line, IsLineOf line release.body ∧ ∃ d : Decoration, d.around "fix: b".toList = line := by
  intro release
  have placed : "fix: b".toList ∈ release.document.changelog.get .fixed := by decide +kernel
  exact ⟨placed, (release.entry_from_line placed).1⟩

end ReleaseNotes
