import Mathlib.Data.List.Forall2
import ReleaseNotes.Changelog.Rule
import ReleaseNotes.Commit.Item
import ReleaseNotes.Proofs.Candidates
import ReleaseNotes.Proofs.SmallLetters

/-! Letter case decides nothing. Each reader finds in a text in small letters what it finds in the text
itself, in small letters. So texts that differ only in the case of their ASCII letters pass the same
tests and go to the same section, and the bodies they make up have candidates that differ no more. A
pull number is read in small letters only, and no decision asks for it. -/
namespace ReleaseNotes

open Text

namespace Kind

theorem dropFrom?_small {fold : Char → Char} (blind : ∀ c, fold (foldAscii c) = fold c) (text : Text) :
    dropFrom? fold (small text) = (dropFrom? fold text).map fun opened => (opened.1, small opened.2) := by
  have each (kind : Kind) : dropWord? fold kind.word (small text) =
      (dropWord? fold kind.word text).map small :=
    dropWord?_small (fun letter _ c => by rw [blind]) text
  simp only [dropFrom?, List.map_findSome?, each, Function.comp_def, Option.map_map]

end Kind

namespace Subject

theorem splitScope?_small (text : Text) :
    splitScope? (small text) = (splitScope? text).map fun cut => (small cut.1, small cut.2) := by
  cases text with
  | nil => rfl
  | cons c text =>
    by_cases opened : c = '('
    · subst opened
      have mark := foldAscii_mark '('
      have cut := span_small (p := (· != ')')) (foldAscii_bne_mark ')' ·) text
      simp only [small_cons, mark, splitScope?, cut]
      rcases text.span (· != ')') with ⟨_ | ⟨d, scope⟩, _ | ⟨e, rest⟩⟩
      · rfl
      · rfl
      · rfl
      · by_cases closed : e = ')'
        · subst closed
          rfl
        · have stays := foldAscii_ne_mark closed
          simp [closed, stays]
    · have stays := foldAscii_ne_mark opened
      simp [splitScope?, opened, stays]

theorem splitMark_small (text : Text) :
    splitMark (small text) = ((splitMark text).1, small (splitMark text).2) := by
  cases text with
  | nil => rfl
  | cons c rest =>
    by_cases marked : c = '!'
    · subst marked
      rfl
    · have stays := foldAscii_ne_mark marked
      simp [splitMark, marked, stays]

theorem afterColon?_small (text : Text) : afterColon? (small text) = (afterColon? text).map small := by
  cases text with
  | nil => rfl
  | cons c rest =>
    by_cases colon : c = ':'
    · subst colon
      rfl
    · have stays := foldAscii_ne_mark colon
      simp [afterColon?, colon, stays]

theorem carriesTitle_small (text : Text) : carriesTitle (small text) = carriesTitle text := by
  rcases text with _ | ⟨c, _ | ⟨d, rest⟩⟩
  · rfl
  · rfl
  · have started := trimStart_small (d :: rest)
    have ended := endsIn_small '\n' (d :: rest)
    rw [small_cons] at started ended
    simp only [small_cons, carriesTitle, isSpace_foldAscii, started, ended, contains_small '\n']

/-- The subject with the ASCII letters of its title small. Its scope is in lower case already. -/
def small (subject : Subject) : Subject :=
  { subject with title := Text.small subject.title }

theorem parse?_small (text : Text) : parse? (Text.small text) = (parse? text).map small := by
  simp only [parse?, Kind.dropFrom?_small foldAscii_foldAscii]
  cases Kind.dropFrom? foldAscii text with
  | none => rfl
  | some opened =>
    simp only [Option.map_some, Option.bind_eq_bind, Option.bind_some, splitScope?_small]
    cases splitScope? opened.2 with
    | none => rfl
    | some cut =>
      simp only [Option.map_some, Option.bind_some, splitMark_small, afterColon?_small]
      cases afterColon? (splitMark cut.2).2 with
      | none => rfl
      | some title =>
        simp only [Option.map_some, Option.bind_some, carriesTitle_small, lowercase_small, trim_small]
        split <;> rfl

end Subject

namespace Header

theorem opensTitle_small (text : Text) : opensTitle (small text) = opensTitle text := by
  simp only [opensTitle, Subject.splitMark_small, Subject.afterColon?_small]
  cases Subject.afterColon? (Subject.splitMark text).2 with
  | none => rfl
  | some rest => simp only [Option.map_some, startsWithSpace_small, isBlank_small]

theorem closesScope_small (text : Text) : closesScope (small text) = closesScope text := by
  induction text with
  | nil => rfl
  | cons c rest ih =>
    simp only [small_cons, closesScope, foldAscii_beq_mark ')', foldAscii_bne_mark '\n', opensTitle_small, ih]

theorem opensScope_small (text : Text) : opensScope (small text) = opensScope text := by
  rcases text with _ | ⟨c, _ | ⟨d, rest⟩⟩
  · rfl
  · simp [opensScope]
  · by_cases opened : c = '('
    · subst opened
      have mark := foldAscii_mark '('
      simp only [small_cons, mark, opensScope, foldAscii_bne_mark '\n', closesScope_small]
    · have stays := foldAscii_ne_mark opened
      simp [opensScope, opened, stays]

end Header

theorem isHeader_small (line : Text) : isHeader (small line) = isHeader line := by
  simp only [isHeader, trim_small, Kind.dropFrom?_small foldSimple_foldAscii]
  cases Kind.dropFrom? foldSimple (trim line) with
  | none => rfl
  | some opened => simp only [Option.map_some, Header.opensTitle_small, Header.opensScope_small]

namespace Item

theorem plain_separator : ∀ mark ∈ "://".toList, mark.toNat < 65 ∨ 122 < mark.toNat := by
  have marks : "://".toList = [':', '/', '/'] := by decide
  simp [marks]

theorem isLink_small (word : Text) : isLink (small word) = isLink word := by
  have loose (keyword text : Text) : dropWord? foldSimple keyword (small text) =
      (dropWord? foldSimple keyword text).map small :=
    dropWord?_small (fun letter _ c => by rw [foldSimple_foldAscii]) text
  have marks (text : Text) : dropWord? id "://".toList (small text) =
      (dropWord? id "://".toList text).map small :=
    dropWord?_small (fun mark member c => foldAscii_eq_mark_iff mark c (plain_separator mark member)) text
  simp only [isLink, loose]
  cases dropWord? foldSimple "http".toList word with
  | none => rfl
  | some rest =>
    simp only [Option.map_some, loose, Option.getD_map, marks]
    cases dropWord? id "://".toList ((dropWord? foldSimple ['s'] rest).getD rest) with
    | none => rfl
    | some address => cases address <;> rfl

/-- The item with its ASCII letters small. The number is read anew, since `/pull/` in capitals is none. -/
def small (item : Item) : Item where
  subject := Text.small item.subject
  author := Text.small item.author
  link := Text.small item.link
  pull := pullNumber? (Text.small item.link)
  conventional := item.conventional.map Subject.small

theorem parse?_small (line : Text) : parse? (Text.small line) = (parse? line).map small := by
  -- The words in small letters are cut off where those of the line are.
  simp only [parse?, trim_small, splitLastWord_small]
  cases (splitLastWord (splitLastWord (splitLastWord (trim line)).1).1).2 with
  | nil => rfl
  | cons c author =>
    by_cases handle : c = '@'
    · subst handle
      have mark := foldAscii_mark '@'
      simp only [small_cons, mark, isLink_small, map_foldAscii_small, bne_nil_small,
        contains_small '\n', Subject.parse?_small]
      rw [apply_ite (Option.map small), Option.map_some, Option.map_none, small]
    · have stays := foldAscii_ne_mark handle
      simp [handle, stays]

theorem isBump_small (item : Item) : item.small.isBump = item.isBump := by
  simp only [isBump, bump?, small, lowercase_small]
  cases item.conventional with
  | none => rfl
  | some subject =>
    simp only [Option.map_some, Option.filter_some, Subject.small]
    split
    · split <;> rfl
    · rfl

end Item

namespace Line

theorem afterBullet?_small (text : Text) :
    afterBullet? (small text) = (afterBullet? text).map small := by
  cases text with
  | nil => rfl
  | cons c rest =>
    simp only [small_cons, afterBullet?, foldAscii_beq_mark '-',
      foldAscii_beq_mark '*', startsWithSpace_small, trimStart_small]
    split <;> rfl

theorem afterNumber?_small (text : Text) :
    afterNumber? (small text) = (afterNumber? text).map small := by
  simp only [afterNumber?, span_small isDigit_foldAscii]
  rcases text.span isDigit with ⟨_ | ⟨d, digits⟩, _ | ⟨c, rest⟩⟩
  · rfl
  · rfl
  · rfl
  · by_cases dot : c = '.'
    · subst dot
      have mark := foldAscii_mark '.'
      simp only [small_cons, mark, startsWithSpace_small, trimStart_small]
      split <;> rfl
    · have stays := foldAscii_ne_mark dot
      simp [dot, stays]

theorem withoutMarkers_small (line : Text) : withoutMarkers (small line) = small (withoutMarkers line) := by
  simp only [withoutMarkers, trim_small, afterBullet?_small, afterNumber?_small, Option.getD_map]

theorem candidate?_small (line : Text) : candidate? (small line) = (candidate? line).map small := by
  simp only [candidate?_eq_guard, withoutMarkers_small, Option.guard, isHeader_small]
  split <;> rfl

end Line

theorem candidates_small (body : Text) : candidates (small body) = (candidates body).map small := by
  simp only [candidates, lines_small, List.filterMap_map, List.map_filterMap]
  exact List.filterMap_congr fun line _ => Line.candidate?_small line

theorem sectionOf_small (line : Text) : sectionOf (small line) = sectionOf line := by
  simp only [sectionOf, Rule.deciding, trim_small, lowercase_small]

/-- Texts of one length that differ only in the case of ASCII letters. -/
def SameButCase (a b : Text) : Prop :=
  List.Forall₂ (fun c d => foldAscii c = foldAscii d) a b

instance (a b : Text) : Decidable (SameButCase a b) :=
  inferInstanceAs (Decidable (List.Forall₂ (fun c d => foldAscii c = foldAscii d) a b))

theorem sameButCase_iff {a b : Text} : SameButCase a b ↔ small a = small b := by
  rw [SameButCase, small, small, ← List.forall₂_eq_eq_eq, List.forall₂_map_left_iff,
    List.forall₂_map_right_iff]

/-- Subjects that differ only in the case of letters of the title. -/
structure Subject.SameButCase (first second : Subject) : Prop where
  kind : first.kind = second.kind
  scope : first.scope = second.scope
  breaking : first.breaking = second.breaking
  title : ReleaseNotes.SameButCase first.title second.title

/-- Items that differ only in the case of letters, and perhaps in the number their links are read for. -/
structure Item.SameButCase (first second : Item) : Prop where
  subject : ReleaseNotes.SameButCase first.subject second.subject
  author : ReleaseNotes.SameButCase first.author second.author
  link : ReleaseNotes.SameButCase first.link second.link
  conventional : Option.Rel Subject.SameButCase first.conventional second.conventional

theorem rel_of_map_eq {α β : Type} {f : α → β} {R : α → α → Prop}
    (related : ∀ x y, f x = f y → R x y) {first second : Option α} (same : first.map f = second.map f) :
    Option.Rel R first second := by
  cases first with
  | none =>
    cases second with
    | none => exact .none
    | some y => contradiction
  | some x =>
    cases second with
    | none => contradiction
    | some y => exact .some (related x y (Option.some.inj same))

theorem Subject.sameButCase_of_small_eq {first second : Subject} (same : first.small = second.small) :
    first.SameButCase second := by
  simp only [small, Subject.mk.injEq] at same
  obtain ⟨kind, scope, breaking, title⟩ := same
  exact ⟨kind, scope, breaking, sameButCase_iff.mpr title⟩

theorem Item.sameButCase_of_small_eq {first second : Item} (same : first.small = second.small) :
    first.SameButCase second := by
  simp only [small, Item.mk.injEq] at same
  obtain ⟨subject, author, link, -, conventional⟩ := same
  exact ⟨sameButCase_iff.mpr subject, sameButCase_iff.mpr author, sameButCase_iff.mpr link,
    rel_of_map_eq (fun _ _ => Subject.sameButCase_of_small_eq) conventional⟩

theorem SameButCase.parse?_rel {a b : Text} (same : SameButCase a b) :
    Option.Rel (fun first second => first.SameButCase second ∧ first.isBump = second.isBump)
      (Item.parse? a) (Item.parse? b) := by
  have small : (Item.parse? a).map Item.small = (Item.parse? b).map Item.small := by
    rw [← Item.parse?_small, ← Item.parse?_small, sameButCase_iff.mp same]
  refine rel_of_map_eq (fun first second alike => ⟨Item.sameButCase_of_small_eq alike, ?_⟩) small
  rw [← first.isBump_small, ← second.isBump_small, alike]

theorem SameButCase.sectionOf_eq {a b : Text} (same : SameButCase a b) : sectionOf a = sectionOf b := by
  rw [← sectionOf_small a, ← sectionOf_small b, sameButCase_iff.mp same]

theorem SameButCase.candidates_forall₂ {a b : Text} (same : SameButCase a b) :
    List.Forall₂ SameButCase (candidates a) (candidates b) := by
  have small : (candidates a).map small = (candidates b).map Text.small := by
    rw [← candidates_small, ← candidates_small, sameButCase_iff.mp same]
  rw [← List.forall₂_eq_eq_eq, List.forall₂_map_left_iff, List.forall₂_map_right_iff] at small
  exact small.imp fun _ _ => sameButCase_iff.mpr

/-- No decision depends on the case of ASCII letters. Of two lines that differ in nothing else, both are
headers or neither; both have a credit or neither, with a conventional subject or without, and for a
dependency update or not; and they go to one section. Two such bodies have as many candidates, each
like the other in its place and of the same section. -/
theorem decisions_of_sameButCase {a b : Text} (same : SameButCase a b) :
    isHeader a = isHeader b ∧
    Option.Rel (fun first second => first.SameButCase second ∧ first.isBump = second.isBump)
      (Item.parse? a) (Item.parse? b) ∧
    sectionOf a = sectionOf b ∧
    List.Forall₂ (fun entry other => SameButCase entry other ∧ sectionOf entry = sectionOf other)
      (candidates a) (candidates b) := by
  refine ⟨?_, same.parse?_rel, same.sectionOf_eq, ?_⟩
  · rw [← isHeader_small a, ← isHeader_small b, sameButCase_iff.mp same]
  · exact same.candidates_forall₂.imp fun _ _ alike => ⟨alike, alike.sectionOf_eq⟩

/-- A dependency update in two spellings. Only the second one has the number of a pull request. -/
theorem decisions_of_sameButCase_shouted :
    let a := "BUILD(deps\u03a3)!: Drop A by @Dependabot In HTTPS://x/PULL/1".toList
    let b := "build(DEPS\u03a3)!: drop a BY @dEPENDABOT in https://X/pull/1".toList
    SameButCase a b ∧
      (Item.parse? a).map (fun item => (item.pull, item.isBump)) = some (none, true) ∧
      (Item.parse? b).map (fun item => (item.pull, item.isBump)) = some (some 1, true) ∧
      isHeader b = true ∧ sectionOf b = .other ∧ List.Forall₂ SameButCase [a] (candidates b) := by
  intro a b
  have same : SameButCase a b := by decide
  obtain ⟨headers, -, sections, entries⟩ := decisions_of_sameButCase same
  have own : candidates a = [a] := by decide +kernel
  refine ⟨same, by decide +kernel, by decide +kernel, ?_, ?_, ?_⟩
  · rw [← headers]
    decide +kernel
  · rw [← sections]
    decide +kernel
  · rw [own] at entries
    exact entries.imp fun _ _ alike => alike.1

end ReleaseNotes
