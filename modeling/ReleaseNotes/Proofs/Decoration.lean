import ReleaseNotes.Proofs.Header

/-! Lines as entries dressed up: space around the entry, and in front of it a bullet, a number, or a bullet
and then a number. What a line holds is what is left when all of this is taken off, and a header
dressed in any such way is the candidate of its line. -/
namespace ReleaseNotes

open Text

namespace Text

theorem exists_range_of_has {ranges : Ranges} {n : Nat} (covered : ranges.has n = true) :
    ∃ range ∈ ranges, range.1 ≤ n ∧ n ≤ range.2 := by
  induction ranges with
  | nil => simp [Ranges.has] at covered
  | cons range rest ih =>
    obtain ⟨first, last⟩ := range
    simp only [Ranges.has] at covered
    split at covered
    · contradiction
    · rename_i notBefore
      rcases Bool.or_eq_true_iff.mp covered with upto | later
      · exact ⟨(first, last), by simp, by omega, of_decide_eq_true upto⟩
      · obtain ⟨range, member, bounds⟩ := ih later
        exact ⟨range, by simp [member], bounds⟩

theorem isSpace_of_isDigit {c : Char} (digit : isDigit c = true) : isSpace c = false := by
  have apart : ∀ range ∈ digitRanges, ∀ other ∈ spaceRanges, range.2 < other.1 ∨ other.2 < range.1 := by
    decide +kernel
  by_contra space
  rw [Bool.not_eq_false] at space
  obtain ⟨range, inDigits, low, high⟩ := exists_range_of_has digit
  obtain ⟨other, inSpaces, otherLow, otherHigh⟩ := exists_range_of_has space
  rcases apart range inDigits other inSpaces with before | behind
  · omega
  · omega

end Text

namespace Line

/-- A bullet and the space behind it. -/
def IsBullet (mark : Text) : Prop :=
  ∃ c gap, mark = c :: gap ∧ (c = '-' ∨ c = '*') ∧ Gap gap

/-- A decimal number in any digits, its dot and the space behind it. -/
def IsNumber (mark : Text) : Prop :=
  ∃ digits gap, mark = digits ++ '.' :: gap ∧ digits ≠ [] ∧ (∀ d ∈ digits, isDigit d = true) ∧ Gap gap

theorem afterBullet?_eq_some_iff {text rest : Text} :
    afterBullet? text = some rest ↔ ∃ mark, IsBullet mark ∧ text = mark ++ rest ∧ StartsSolid rest := by
  constructor
  · intro cut
    cases text with
    | nil => simp [afterBullet?] at cut
    | cons c more =>
      simp only [afterBullet?, Option.ite_none_right_eq_some, Option.some.injEq, Bool.and_eq_true,
        Bool.or_eq_true, beq_iff_eq] at cut
      obtain ⟨⟨bullet, space⟩, rfl⟩ := cut
      obtain ⟨gap, spaced, whole⟩ := exists_gap_of_startsWithSpace space
      refine ⟨c :: gap, ⟨c, gap, rfl, bullet, spaced⟩, ?_, startsSolid_trimStart more⟩
      rw [List.cons_append, ← whole]
  · rintro ⟨mark, ⟨c, gap, rfl, bullet, spaced⟩, rfl, starts⟩
    simp only [List.cons_append, afterBullet?, Option.ite_none_right_eq_some, Option.some.injEq,
      Bool.and_eq_true, Bool.or_eq_true, beq_iff_eq]
    refine ⟨⟨bullet, startsWithSpace_append spaced rest⟩, ?_⟩
    rw [trimStart_append_of_blank spaced.blank, trimStart_of_startsSolid starts]

theorem afterNumber?_eq_some_iff {text rest : Text} :
    afterNumber? text = some rest ↔ ∃ mark, IsNumber mark ∧ text = mark ++ rest ∧ StartsSolid rest := by
  constructor
  · intro cut
    unfold afterNumber? at cut
    split at cut
    case h_1 digit digits more spanned =>
      obtain ⟨whole, inside, -⟩ := span_eq_iff.mp spanned
      simp only [Option.ite_none_right_eq_some, Option.some.injEq] at cut
      obtain ⟨space, rfl⟩ := cut
      obtain ⟨gap, spaced, tail⟩ := exists_gap_of_startsWithSpace space
      refine ⟨digit :: digits ++ '.' :: gap, ⟨digit :: digits, gap, rfl, by simp, inside, spaced⟩, ?_,
        startsSolid_trimStart more⟩
      rw [whole, List.append_assoc (digit :: digits), List.cons_append (a := '.'), ← tail]
    case h_2 => contradiction
  · rintro ⟨mark, ⟨digits, gap, rfl, given, inside, spaced⟩, rfl, starts⟩
    obtain ⟨digit, more, rfl⟩ := List.exists_cons_of_ne_nil given
    have dot : isDigit '.' = false := by decide
    have spanned : (digit :: more ++ '.' :: (gap ++ rest)).span isDigit =
        (digit :: more, '.' :: (gap ++ rest)) :=
      span_eq_iff.mpr ⟨rfl, inside, by simpa using dot⟩
    rw [List.append_assoc, List.cons_append (a := '.'), afterNumber?, spanned]
    simp only [startsWithSpace_append spaced, if_true]
    rw [trimStart_append_of_blank spaced.blank, trimStart_of_startsSolid starts]

theorem afterBullet?_of_first {c : Char} (rest : Text) (notDash : c ≠ '-') (notStar : c ≠ '*') :
    afterBullet? (c :: rest) = none := by
  simp [afterBullet?, notDash, notStar]

theorem afterNumber?_of_first {c : Char} (rest : Text) (noDigit : isDigit c = false) :
    afterNumber? (c :: rest) = none := by
  simp [afterNumber?, noDigit]

/-- What a header begins with is no mark of a heading and opens no list item. -/
theorem exists_first_of_isHeader {entry : Text} (trimmed : Trimmed entry)
    (header : isHeader entry = true) :
    ∃ c rest, entry = c :: rest ∧ c ∉ ['#', '-', '*'] ∧ isDigit c = false := by
  obtain ⟨c, rest, whole, letter⟩ := exists_letter_of_isHeader trimmed header
  refine ⟨c, rest, whole, ?_, ?_⟩
  · intro mark
    simp only [List.mem_cons, List.not_mem_nil, or_false] at mark
    rcases mark with rfl | rfl | rfl
    all_goals
      revert letter
      decide
  · rcases letter with ascii | rfl | rfl
    · exact not_isDigit_of_letter ascii
    · decide
    · decide

theorem not_endsSolid_append_gap (front : Text) {gap : Text} (spaced : Gap gap) :
    ¬EndsSolid (front ++ gap) := by
  intro ends
  rw [endsSolid_append front spaced.given] at ends
  have last := List.getLast?_eq_getLast_of_ne_nil spaced.given
  have space := spaced.blank _ (List.getLast_mem spaced.given)
  rw [ends _ last] at space
  contradiction

/-- What the two readers of markers have in common: each takes off a mark that begins solid and ends in
space, with all the space behind it. -/
structure TakesMark (cut? : Text → Option Text) (IsMark : Text → Prop) : Prop where
  cut_iff : ∀ {text rest}, cut? text = some rest ↔
    ∃ mark, IsMark mark ∧ text = mark ++ rest ∧ StartsSolid rest
  starts : ∀ {mark}, IsMark mark → ∀ rest, StartsSolid (mark ++ rest)
  spaced : ∀ {mark}, IsMark mark → ¬EndsSolid mark

theorem takesMark_bullet : TakesMark afterBullet? IsBullet where
  cut_iff := afterBullet?_eq_some_iff
  starts := by
    rintro mark ⟨c, gap, rfl, bullet, -⟩ rest d first
    obtain rfl := Option.some.inj first
    rcases bullet with rfl | rfl
    · decide
    · decide
  spaced := by
    rintro mark ⟨c, gap, rfl, -, spaced⟩
    exact not_endsSolid_append_gap [c] spaced

theorem takesMark_number : TakesMark afterNumber? IsNumber where
  cut_iff := afterNumber?_eq_some_iff
  starts := by
    rintro mark ⟨digits, gap, rfl, given, inside, -⟩ rest d first
    obtain ⟨digit, more, rfl⟩ := List.exists_cons_of_ne_nil given
    obtain rfl := Option.some.inj first
    exact isSpace_of_isDigit (inside digit (by simp))
  spaced := by
    rintro mark ⟨digits, gap, rfl, -, -, spaced⟩
    rw [List.append_cons]
    exact not_endsSolid_append_gap _ spaced

namespace TakesMark

variable {cut? : Text → Option Text} {IsMark : Text → Prop}

/-- In a text that does not end in space something stands behind the mark, and further text behind the
whole stays there. -/
theorem append (takes : TakesMark cut? IsMark) {text rest : Text} (ends : EndsSolid text)
    (cut : cut? text = some rest) (after : Text) :
    rest ≠ [] ∧ cut? (text ++ after) = some (rest ++ after) := by
  obtain ⟨mark, isMark, rfl, starts⟩ := takes.cut_iff.mp cut
  have given : rest ≠ [] := by
    rintro rfl
    rw [List.append_nil] at ends
    exact takes.spaced isMark ends
  refine ⟨given, takes.cut_iff.mpr ⟨mark, isMark, List.append_assoc .., ?_⟩⟩
  exact (startsSolid_append after given).mpr starts

theorem exists_mark (takes : TakesMark cut? IsMark) {text : Text} (starts : StartsSolid text) :
    ∃ mark, (mark = [] ∨ IsMark mark) ∧ text = mark ++ (cut? text).getD text ∧
      StartsSolid ((cut? text).getD text) := by
  cases cut : cut? text with
  | none => exact ⟨[], .inl rfl, rfl, starts⟩
  | some rest =>
    obtain ⟨mark, isMark, whole, startsRest⟩ := takes.cut_iff.mp cut
    exact ⟨mark, .inr isMark, whole, startsRest⟩

theorem getD_append (takes : TakesMark cut? IsMark) {mark rest : Text}
    (optional : mark = [] ∨ IsMark mark) (starts : StartsSolid rest) (unmarked : cut? rest = none) :
    (cut? (mark ++ rest)).getD (mark ++ rest) = rest := by
  rcases optional with rfl | isMark
  · rw [List.nil_append, unmarked, Option.getD_none]
  · rw [takes.cut_iff.mpr ⟨mark, isMark, rfl, starts⟩, Option.getD_some]

theorem startsSolid_append (takes : TakesMark cut? IsMark) {mark rest : Text}
    (optional : mark = [] ∨ IsMark mark) (starts : StartsSolid rest) : StartsSolid (mark ++ rest) := by
  rcases optional with rfl | isMark
  · exact starts
  · exact takes.starts isMark rest

end TakesMark

/-- A line that is no list item has no marker to lose, so whether it is one need not be asked. -/
theorem cleaned_eq_withoutMarkers (line : Text) : cleaned line = withoutMarkers line := by
  unfold cleaned
  split
  · rfl
  · rename_i plain
    obtain ⟨after, whole, -⟩ := exists_trimEnd (trimStart line)
    change trimStart line = trim line ++ after at whole
    have ends : EndsSolid (trim line) := endsSolid_trim line
    simp only [isListItem, whole, Bool.or_eq_true, not_or] at plain
    have noBullet : afterBullet? (trim line) = none := by
      cases cut : afterBullet? (trim line) with
      | none => rfl
      | some rest =>
        obtain ⟨given, longer⟩ := takesMark_bullet.append ends cut after
        simp [longer, given] at plain
    have noNumber : afterNumber? (trim line) = none := by
      cases cut : afterNumber? (trim line) with
      | none => rfl
      | some rest =>
        obtain ⟨given, longer⟩ := takesMark_number.append ends cut after
        simp [longer, given] at plain
    simp [withoutMarkers, noBullet, noNumber]

end Line

/-- What may stand around the entry of a line. -/
structure Decoration where
  before : Text
  bullet : Text
  number : Text
  after : Text
  blankBefore : ∀ c ∈ before, isSpace c = true
  bulleted : bullet = [] ∨ Line.IsBullet bullet
  numbered : number = [] ∨ Line.IsNumber number
  blankAfter : ∀ c ∈ after, isSpace c = true

namespace Decoration

variable (d : Decoration)

def around (entry : Text) : Text :=
  d.before ++ (d.bullet ++ (d.number ++ entry)) ++ d.after

theorem isInfix_around (entry : Text) : entry <:+: d.around entry := by
  have marked : entry <:+ d.bullet ++ (d.number ++ entry) :=
    (List.suffix_append d.number entry).trans (List.suffix_append d.bullet _)
  exact marked.isInfix.trans (List.infix_append d.before _ d.after)

end Decoration

namespace Line

theorem exists_decoration_of_candidate? {line entry : Text} (holds : candidate? line = some entry) :
    ∃ d : Decoration, d.around entry = line := by
  obtain ⟨clean, -⟩ := cleaned_of_candidate? holds
  have trimmed := trimmed_of_candidate? holds
  obtain ⟨before, after, whole, blankBefore, blankAfter⟩ := exists_trim line
  obtain ⟨bullet, bulleted, cutBullet, startsBullet⟩ :=
    takesMark_bullet.exists_mark (startsSolid_trim line)
  obtain ⟨number, numbered, cutNumber, startsNumber⟩ := takesMark_number.exists_mark startsBullet
  rw [cleaned_eq_withoutMarkers, withoutMarkers] at clean
  generalize (afterBullet? (trim line)).getD (trim line) = behindBullet at *
  generalize (afterNumber? behindBullet).getD behindBullet = rest at *
  have given : rest ≠ [] := by
    rintro rfl
    exact trimmed.given clean
  have ends : EndsSolid rest := by
    have endsLine : EndsSolid (trim line) := endsSolid_trimEnd _
    rw [cutBullet, cutNumber, ← List.append_assoc] at endsLine
    exact (endsSolid_append _ given).mp endsLine
  have left : entry = rest := by
    rw [clean, Trimmed.trim_eq ⟨given, startsNumber, ends⟩]
  refine ⟨⟨before, bullet, number, after, blankBefore, bulleted, numbered, blankAfter⟩, ?_⟩
  rw [Decoration.around, left, ← cutNumber, ← cutBullet, ← whole]

theorem exists_first_of_numbered {number entry : Text} (numbered : number = [] ∨ IsNumber number)
    (trimmed : Trimmed entry) (header : isHeader entry = true) :
    ∃ c rest, number ++ entry = c :: rest ∧ c ∉ ['#', '-', '*'] := by
  rcases numbered with rfl | ⟨digits, gap, rfl, given, inside, -⟩
  · obtain ⟨c, rest, whole, noMark, -⟩ := exists_first_of_isHeader trimmed header
    exact ⟨c, rest, whole, noMark⟩
  · obtain ⟨digit, more, rfl⟩ := List.exists_cons_of_ne_nil given
    refine ⟨digit, more ++ '.' :: gap ++ entry, rfl, fun mark => ?_⟩
    have isDigit := inside digit (by simp)
    simp only [List.mem_cons, List.not_mem_nil, or_false] at mark
    rcases mark with rfl | rfl | rfl
    all_goals
      revert isDigit
      decide

section Around

variable (d : Decoration) {entry : Text}

theorem trim_around (trimmed : Trimmed entry) :
    trim (d.around entry) = d.bullet ++ (d.number ++ entry) := by
  have starts : StartsSolid (d.bullet ++ (d.number ++ entry)) :=
    takesMark_bullet.startsSolid_append d.bulleted
      (takesMark_number.startsSolid_append d.numbered trimmed.starts)
  have ends : EndsSolid (d.bullet ++ (d.number ++ entry)) := by
    rw [← List.append_assoc]
    exact trimmed.endsSolid_append _
  have given : d.bullet ++ (d.number ++ entry) ≠ [] := by simp [trimmed.given]
  exact trim_of_blank_around d.blankBefore ⟨given, starts, ends⟩ d.blankAfter

theorem withoutMarkers_around (trimmed : Trimmed entry) (header : isHeader entry = true) :
    withoutMarkers (d.around entry) = entry := by
  obtain ⟨c, rest, first, noMark⟩ := exists_first_of_numbered d.numbered trimmed header
  obtain ⟨e, more, firstOfEntry, -, noDigit⟩ := exists_first_of_isHeader trimmed header
  have noBullet : afterBullet? (d.number ++ entry) = none := by
    rw [first]
    exact afterBullet?_of_first rest (by simp_all) (by simp_all)
  have noNumber : afterNumber? entry = none := by
    rw [firstOfEntry]
    exact afterNumber?_of_first more noDigit
  have startsNumber : StartsSolid (d.number ++ entry) :=
    takesMark_number.startsSolid_append d.numbered trimmed.starts
  rw [withoutMarkers, trim_around d trimmed]
  simp only [takesMark_bullet.getD_append d.bulleted startsNumber noBullet,
    takesMark_number.getD_append d.numbered trimmed.starts noNumber]
  exact trimmed.trim_eq

theorem not_isHeading_around (trimmed : Trimmed entry) (header : isHeader entry = true) :
    isHeading (d.around entry) = false := by
  obtain ⟨c, rest, first, noMark⟩ : ∃ c rest, d.bullet ++ (d.number ++ entry) = c :: rest ∧ c ≠ '#' := by
    rcases d.bulleted with bare | ⟨c, gap, bullet, isBullet, -⟩
    · obtain ⟨c, rest, first, noMark⟩ := exists_first_of_numbered d.numbered trimmed header
      refine ⟨c, rest, by rw [bare, List.nil_append, first], ?_⟩
      rintro rfl
      simp at noMark
    · refine ⟨c, gap ++ (d.number ++ entry), by rw [bullet, List.cons_append], ?_⟩
      rintro rfl
      simp at isBullet
  have starts : StartsSolid (c :: rest) := by
    rw [← first, ← trim_around d trimmed]
    exact startsSolid_trim _
  have solid : isSpace c = false := starts c rfl
  rw [isHeading, Decoration.around, first, List.append_assoc, trimStart_append_of_blank d.blankBefore,
    List.cons_append, trimStart_cons_of_not_space _ solid, List.head?_cons]
  simpa using noMark

/-- A header is the candidate of its line, whatever its decoration. -/
theorem candidate?_around (trimmed : Trimmed entry) (header : isHeader entry = true) :
    candidate? (d.around entry) = some entry := by
  have clean : cleaned (d.around entry) = entry := by
    rw [cleaned_eq_withoutMarkers, withoutMarkers_around d trimmed header]
  have notBlank : isBlank (d.around entry) = false := by
    obtain ⟨c, rest, rfl⟩ := List.exists_cons_of_ne_nil trimmed.given
    have solid : isSpace c = false := trimmed.starts c rfl
    have member : c ∈ d.around (c :: rest) := (d.isInfix_around _).subset (by simp)
    rw [isBlank, List.all_eq_false]
    exact ⟨c, member, by simp [solid]⟩
  simp [candidate?, notBlank, not_isHeading_around d trimmed header, clean, header]

end Around

theorem candidate?_of_isHeader {entry : Text} (trimmed : Trimmed entry)
    (header : isHeader entry = true) : candidate? entry = some entry := by
  have bare := candidate?_around ⟨[], [], [], [], by simp, .inl rfl, .inl rfl, by simp⟩ trimmed header
  simpa [Decoration.around] using bare

end Line

end ReleaseNotes
