import Mathlib.Data.List.Forall2
import ReleaseNotes.Proofs.LineBreaks
import ReleaseNotes.Proofs.Subject

/-! Commit headers by their grammar, `kind(scope)!: title`, which is looser than that of subjects: a long s
passes for an s, a scope may have parentheses in it, and a title need only begin. The word in front is in
ASCII letters or holds a long s, and so no header begins like a heading or a list item. -/
namespace ReleaseNotes

open Text

namespace Text

/-- Small letters other than `k` are met by ASCII letters or, one of them, by the long s. -/
theorem foldAscii_eq_iff {letter : Char} (small : 97 ≤ letter.toNat ∧ letter.toNat ≤ 122)
    (notK : letter ≠ 'k') (c : Char) :
    foldAscii c = letter ↔ foldSimple c = letter ∧ c ≠ '\u017f' := by
  by_cases longS : c = '\u017f'
  · subst longS
    have self := foldAscii_mark '\u017f'
    have foreign : '\u017f' ≠ letter := by
      rintro rfl
      simp at small
    simp [self, foreign]
  · by_cases kelvin : c = '\u212a'
    · subst kelvin
      have self := foldAscii_mark '\u212a'
      have foreign : '\u212a' ≠ letter := by
        rintro rfl
        simp at small
      simp [self, foreign, notK.symm]
    · simp [foldSimple_eq_foldAscii longS kelvin, longS]

theorem spells_iff {word : Text} (small : ∀ c ∈ word, 97 ≤ c.toNat ∧ c.toNat ≤ 122 ∧ c ≠ 'k')
    (text : Text) : Spells text word ↔ text.map foldSimple = word ∧ '\u017f' ∉ text := by
  unfold Spells
  induction word generalizing text with
  | nil => simp +contextual
  | cons letter word ih =>
    obtain ⟨low, high, notK⟩ := small letter (by simp)
    cases text with
    | nil => simp
    | cons c text =>
      have tail := ih (fun d member => small d (List.mem_cons_of_mem letter member)) text
      simp only [List.map_cons, List.cons.injEq, foldAscii_eq_iff ⟨low, high⟩ notK, tail,
        List.mem_cons, not_or]
      grind

/-- The text is the lowercase word in some choice of ASCII capitals, where a long s may stand for an s. -/
def SpellsLoosely (text word : Text) : Prop :=
  List.Forall₂ (fun c letter => foldAscii c = letter ∨ (c = '\u017f' ∧ letter = 's')) text word

theorem foldSimple_eq_small_iff {letter : Char} (small : 97 ≤ letter.toNat ∧ letter.toNat ≤ 122)
    (notK : letter ≠ 'k') (c : Char) :
    foldSimple c = letter ↔ foldAscii c = letter ∨ (c = '\u017f' ∧ letter = 's') := by
  rw [foldAscii_eq_iff small notK]
  by_cases longS : c = '\u017f'
  · subst longS
    simp [eq_comm]
  · simp [longS]

theorem spellsLoosely_iff {word : Text}
    (small : ∀ c ∈ word, 97 ≤ c.toNat ∧ c.toNat ≤ 122 ∧ c ≠ 'k') (text : Text) :
    SpellsLoosely text word ↔ text.map foldSimple = word := by
  unfold SpellsLoosely
  induction word generalizing text with
  | nil => simp
  | cons letter word ih =>
    obtain ⟨low, high, notK⟩ := small letter (by simp)
    cases text with
    | nil => simp
    | cons c text =>
      have tail := ih (fun d member => small d (List.mem_cons_of_mem letter member)) text
      rw [List.forall₂_cons, tail, List.map_cons, List.cons.injEq,
        foldSimple_eq_small_iff ⟨low, high⟩ notK]

theorem toNat_of_foldSimple {c letter : Char} (small : 97 ≤ letter.toNat ∧ letter.toNat ≤ 122)
    (folded : foldSimple c = letter) :
    (65 ≤ c.toNat ∧ c.toNat ≤ 122) ∨ c = '\u017f' ∨ c = '\u212a' := by
  by_cases longS : c = '\u017f'
  · exact .inr (.inl longS)
  · by_cases kelvin : c = '\u212a'
    · exact .inr (.inr kelvin)
    · rw [foldSimple_eq_foldAscii longS kelvin] at folded
      have code := toNat_foldAscii c
      rw [folded] at code
      left
      split at code <;> omega

theorem not_isDigit_of_letter {c : Char} (letter : 65 ≤ c.toNat ∧ c.toNat ≤ 122) : isDigit c = false := by
  have table : digitRanges = (0x30, 0x39) :: (0x660, 0x669) :: digitRanges.tail.tail := rfl
  rw [isDigit, table]
  simp [Ranges.has]
  omega

end Text

namespace Kind

/-- The text begins with the word of the kind in some choice of ASCII capitals. -/
def Opens (kind : Kind) (text : Text) : Prop :=
  ∃ word rest, text = word ++ rest ∧ Spells word kind.word

/-- The text begins with the word of the kind, which has a long s somewhere. -/
def OpensWithLongS (kind : Kind) (text : Text) : Prop :=
  ∃ word rest, text = word ++ rest ∧ word.map foldSimple = kind.word ∧ '\u017f' ∈ word

theorem spells_word_iff (kind : Kind) (text : Text) :
    Spells text kind.word ↔ text.map foldSimple = kind.word ∧ '\u017f' ∉ text :=
  spells_iff kind.letters_of_word text

end Kind

namespace Header

/-- What may stand behind the word of a kind. -/
def Follows (rest : Text) : Prop :=
  ∃ more, rest = '(' :: more ∨ rest = ':' :: more ∨ rest = '!' :: ':' :: more

/-- A commit header in parts. -/
structure Form where
  kind : Kind
  word : Text
  scope : Option Text
  breaking : Bool
  gap : Text
  title : Text
  spelled : SpellsLoosely word kind.word
  /-- The scope is on one line, and that is all that is asked of it. -/
  enclosed : ∀ s ∈ scope, s ≠ [] ∧ '\n' ∉ s
  spaced : Gap gap
  titled : title ≠ []
  starts : StartsSolid title

def Form.text (form : Form) : Text :=
  form.word ++ (Subject.scopeText form.scope ++
    (Subject.markText form.breaking ++ ':' :: (form.gap ++ form.title)))

theorem opensTitle_sound {text : Text} (opens : opensTitle text = true) :
    ∃ breaking gap title, text = Subject.markText breaking ++ ':' :: (gap ++ title) ∧ Gap gap ∧
      title ≠ [] ∧ StartsSolid title := by
  unfold opensTitle at opens
  split at opens
  case h_2 => contradiction
  case h_1 rest colon =>
    simp only [Bool.and_eq_true, Bool.not_eq_true'] at opens
    obtain ⟨spaced, notBlank⟩ := opens
    obtain ⟨gap, space, cut⟩ := exists_gap_of_startsWithSpace spaced
    have whole := Subject.markText_splitMark text
    rw [Subject.afterColon?_eq_some_iff.mp colon, cut] at whole
    refine ⟨(Subject.splitMark text).1, gap, trimStart rest, whole, space, ?_, startsSolid_trimStart rest⟩
    intro nothing
    have blank := List.dropWhile_eq_nil_iff.mp nothing
    rw [isBlank, List.all_eq_true.mpr blank] at notBlank
    contradiction

theorem opensTitle_complete (breaking : Bool) {gap title : Text} (space : Gap gap)
    (starts : StartsSolid title) (given : title ≠ []) :
    opensTitle (Subject.markText breaking ++ ':' :: (gap ++ title)) = true := by
  obtain ⟨c, more, rfl⟩ := List.exists_cons_of_ne_nil space.given
  obtain ⟨d, rest, rfl⟩ := List.exists_cons_of_ne_nil given
  have first : isSpace c = true := space.blank c (by simp)
  have solid : isSpace d = false := starts d rfl
  simp [opensTitle, Subject.splitMark_markText, Subject.afterColon?, startsWithSpace, first, isBlank, solid]

theorem closesScope_sound {text : Text} (closes : closesScope text = true) :
    ∃ inner rest, text = inner ++ ')' :: rest ∧ '\n' ∉ inner ∧ opensTitle rest = true := by
  induction text with
  | nil => contradiction
  | cons c text ih =>
    simp only [closesScope, Bool.or_eq_true, Bool.and_eq_true, beq_iff_eq, bne_iff_ne] at closes
    rcases closes with ⟨rfl, opens⟩ | ⟨apart, later⟩
    · exact ⟨[], text, rfl, by simp, opens⟩
    · obtain ⟨inner, rest, rfl, oneLine, opens⟩ := ih later
      refine ⟨c :: inner, rest, rfl, ?_, opens⟩
      simp [oneLine, apart.symm]

/-- Any parenthesis on the line may close the scope. -/
theorem closesScope_complete {inner rest : Text} (oneLine : '\n' ∉ inner)
    (opens : opensTitle rest = true) : closesScope (inner ++ ')' :: rest) = true := by
  induction inner with
  | nil => simp [closesScope, opens]
  | cons c inner ih =>
    simp only [List.mem_cons, not_or] at oneLine
    have apart : c ≠ '\n' := fun same => oneLine.1 same.symm
    simp [closesScope, apart, ih oneLine.2]

theorem opensScope_sound {text : Text} (opens : opensScope text = true) :
    ∃ scope rest, text = '(' :: scope ++ ')' :: rest ∧ scope ≠ [] ∧ '\n' ∉ scope ∧
      opensTitle rest = true := by
  unfold opensScope at opens
  split at opens
  case h_2 => contradiction
  case h_1 c text =>
    simp only [Bool.and_eq_true, bne_iff_ne] at opens
    obtain ⟨apart, closes⟩ := opens
    obtain ⟨inner, rest, rfl, oneLine, opens⟩ := closesScope_sound closes
    exact ⟨c :: inner, rest, rfl, by simp, by simp [oneLine, apart.symm], opens⟩

theorem opensScope_complete {scope rest : Text} (given : scope ≠ []) (oneLine : '\n' ∉ scope)
    (opens : opensTitle rest = true) : opensScope ('(' :: scope ++ ')' :: rest) = true := by
  obtain ⟨c, inner, rfl⟩ := List.exists_cons_of_ne_nil given
  simp only [List.mem_cons, not_or] at oneLine
  have apart : c ≠ '\n' := fun same => oneLine.1 same.symm
  simp [opensScope, apart, closesScope_complete oneLine.2 opens]

theorem behindWord_sound {text : Text} (opens : (opensTitle text || opensScope text) = true) :
    ∃ scope : Option Text, (∀ s ∈ scope, s ≠ [] ∧ '\n' ∉ s) ∧ ∃ rest,
      text = Subject.scopeText scope ++ rest ∧ opensTitle rest = true := by
  rcases Bool.or_eq_true_iff.mp opens with title | opened
  · exact ⟨none, by simp, text, rfl, title⟩
  · obtain ⟨scope, rest, rfl, given, oneLine, title⟩ := opensScope_sound opened
    refine ⟨some scope, ?_, rest, by simp [Subject.scopeText], title⟩
    rintro s ⟨⟩
    exact ⟨given, oneLine⟩

theorem Form.follows (form : Form) :
    Follows (Subject.scopeText form.scope ++
      (Subject.markText form.breaking ++ ':' :: (form.gap ++ form.title))) := by
  cases form.scope with
  | none => cases form.breaking <;> simp [Follows, Subject.scopeText, Subject.markText]
  | some scope => simp [Follows, Subject.scopeText]

end Header

theorem exists_form_of_isHeader {line : Text} (header : isHeader line = true) :
    ∃ form : Header.Form, form.text = trim line := by
  unfold isHeader at header
  split at header
  case h_2 => contradiction
  case h_1 kind behind dropped =>
    obtain ⟨word, whole, folded⟩ := Kind.dropFrom?_sound dropped
    obtain ⟨scope, enclosed, rest, rfl, opens⟩ := Header.behindWord_sound header
    obtain ⟨breaking, gap, title, rfl, spaced, titled, starts⟩ := Header.opensTitle_sound opens
    have spelled : SpellsLoosely word kind.word := (spellsLoosely_iff kind.letters_of_word word).mpr folded
    exact ⟨⟨kind, word, scope, breaking, gap, title, spelled, enclosed, spaced, titled, starts⟩, whole.symm⟩

theorem Header.Form.isHeader (form : Form) {line : Text} (whole : form.text = trim line) :
    isHeader line = true := by
  have folded := (spellsLoosely_iff form.kind.letters_of_word form.word).mp form.spelled
  have opens := opensTitle_complete form.breaking form.spaced form.starts form.titled
  rw [ReleaseNotes.isHeader, ← whole, text, Kind.dropFrom?_complete folded]
  cases shape : form.scope with
  | none => simp [Subject.scopeText, opens]
  | some scope =>
    obtain ⟨filled, oneLine⟩ := form.enclosed scope shape
    have opened := opensScope_complete filled oneLine opens
    simp only [Subject.scopeText, List.append_assoc, List.cons_append, List.nil_append] at opened ⊢
    simp [opened]

/-- A line is a header exactly when it consists, less the space around it, of the word of a kind, perhaps a
scope, perhaps a mark, a colon, a gap and something that is no space. -/
theorem isHeader_exact (line : Text) :
    isHeader line = true ↔ ∃ form : Header.Form, form.text = trim line := by
  constructor
  · exact exists_form_of_isHeader
  · rintro ⟨form, whole⟩
    exact form.isHeader whole

/-- Of three parentheses the second has to close the scope. -/
example : isHeader " te\u017ft((a) b)!:\u00a0(c) ".toList = true ∧
    isHeader "feat(a)".toList = false ∧ isHeader "feat(): a".toList = false := by
  decide

theorem exists_word_of_isHeader {line : Text} (header : isHeader line = true) :
    ∃ (kind : Kind) (word rest : Text), trim line = word ++ rest ∧
      word.map foldSimple = kind.word ∧ Header.Follows rest := by
  obtain ⟨form, whole⟩ := exists_form_of_isHeader header
  have folded := (spellsLoosely_iff form.kind.letters_of_word form.word).mp form.spelled
  exact ⟨form.kind, form.word, _, whole.symm, folded, form.follows⟩

theorem opens_or_opensWithLongS {line : Text} (header : isHeader line = true) :
    (∃ kind : Kind, kind.Opens (trim line)) ∨ ∃ kind : Kind, kind.OpensWithLongS (trim line) := by
  obtain ⟨kind, word, rest, whole, folded, -⟩ := exists_word_of_isHeader header
  by_cases longS : '\u017f' ∈ word
  · exact .inr ⟨kind, word, rest, whole, folded, longS⟩
  · exact .inl ⟨kind, word, rest, whole, (kind.spells_word_iff word).mpr ⟨folded, longS⟩⟩

/-- Only one word can open a header, whichever way it is found. -/
theorem follows_of_opens {line word rest : Text} {kind : Kind} (header : isHeader line = true)
    (whole : trim line = word ++ rest) (folded : word.map foldSimple = kind.word) :
    Header.Follows rest := by
  obtain ⟨other, otherWord, otherRest, otherWhole, otherFolded, follows⟩ :=
    exists_word_of_isHeader header
  have dropped := Kind.dropFrom?_complete folded rest
  rw [← whole, otherWhole, Kind.dropFrom?_complete otherFolded otherRest] at dropped
  simp only [Option.some.injEq, Prod.mk.injEq] at dropped
  exact dropped.2 ▸ follows

namespace Line

theorem exists_letter_of_isHeader {entry : Text} (trimmed : Trimmed entry)
    (header : isHeader entry = true) :
    ∃ c rest, entry = c :: rest ∧ ((65 ≤ c.toNat ∧ c.toNat ≤ 122) ∨ c = '\u017f' ∨ c = '\u212a') := by
  obtain ⟨kind, word, rest, whole, folded, -⟩ := exists_word_of_isHeader header
  rw [trimmed.trim_eq] at whole
  cases word with
  | nil => exact absurd folded.symm kind.word_ne_nil
  | cons c word =>
    have first : foldSimple c ∈ kind.word := by
      rw [← folded]
      simp
    obtain ⟨low, high, -⟩ := kind.letters_of_word _ first
    exact ⟨c, word ++ rest, whole, toNat_of_foldSimple ⟨low, high⟩ rfl⟩

end Line

end ReleaseNotes
