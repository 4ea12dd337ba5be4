import ReleaseNotes.Proofs.ConventionalLine
import ReleaseNotes.Proofs.PullNumber
import ReleaseNotes.Proofs.Regeneration

/-! Generated release notes, one merged pull request on each line. The candidates of such a body are the
lines that were written, and reading a line gives the pull request back, whatever its title says. -/
namespace ReleaseNotes

open Text

/-- A merged pull request, as generated notes tell of it. -/
structure PullRequest where
  kind : Kind
  /-- Empty if there is none. -/
  scope : Text
  breaking : Bool
  title : Text
  author : Text
  /-- The host and the path of the repository. -/
  place : Text
  number : UInt64
  enclosed : ')' ∉ scope
  lowered : lowercase scope = scope
  titled : Trimmed title
  named : Solid author
  placed : ∀ c ∈ place, isSpace c = false
  unbroken : ∀ part ∈ [scope, title, author, place], Unbroken part
  /-- Otherwise the place would have a number of its own, and that one would count. -/
  firstPull : ¬Item.HasPull ("https://".toList ++ place)

namespace PullRequest

variable (r : PullRequest)

def scope? : Option Text :=
  if r.scope = [] then none else some r.scope

def subject : Text :=
  r.kind.word ++ Subject.scopeText r.scope? ++ Subject.markText r.breaking ++ ": ".toList ++ r.title

def link : Text :=
  "https://".toList ++ r.place ++ "/pull/".toList ++ ofNat r.number.toNat

/-- The line of a pull request: `kind(scope)!: title by @author in link`. -/
def line : Text :=
  r.subject ++ " by @".toList ++ r.author ++ " in ".toList ++ r.link

def item : Item where
  subject := r.subject
  author := r.author
  link := r.link
  pull := some r.number.toNat
  conventional := some ⟨r.kind, r.scope, r.breaking, r.title⟩

def notes (requests : List PullRequest) : Text :=
  joinLines (requests.map fun r => "* ".toList ++ r.line)

theorem enclosed_of_mem_scope? : ∀ s ∈ r.scope?, s ≠ [] ∧ s = r.scope := by
  intro s member
  simp only [scope?, Option.mem_def, Option.ite_none_left_eq_some, Option.some.injEq] at member
  obtain ⟨given, rfl⟩ := member
  exact ⟨given, rfl⟩

theorem getD_scope? : r.scope?.getD [] = r.scope := by
  by_cases nothing : r.scope = []
  · simp [scope?, nothing]
  · simp [scope?, nothing]

theorem unbroken_scope : Unbroken r.scope := r.unbroken _ (by simp)
theorem unbroken_title : Unbroken r.title := r.unbroken _ (by simp)
theorem unbroken_author : Unbroken r.author := r.unbroken _ (by simp)
theorem unbroken_place : Unbroken r.place := r.unbroken _ (by simp)

theorem unbroken_word : Unbroken r.kind.word := by
  refine unbroken_of_printable fun c member => ?_
  obtain ⟨low, high, -⟩ := r.kind.letters_of_word c member
  omega

theorem unbroken_scopeText : Unbroken (Subject.scopeText r.scope?) := by
  cases given : r.scope? with
  | none => simp [Subject.scopeText, Unbroken]
  | some scope =>
    obtain ⟨-, rfl⟩ := r.enclosed_of_mem_scope? scope given
    have opening : Unbroken ['('] := by decide
    have closing : Unbroken [')'] := by decide
    rw [Subject.scopeText, ← List.singleton_append, unbroken_append, unbroken_append]
    exact ⟨⟨opening, r.unbroken_scope⟩, closing⟩

theorem unbroken_number : Unbroken (ofNat r.number.toNat) := by
  refine unbroken_of_printable fun c member => ?_
  have bounds := toNat_of_isAsciiDigit (isAsciiDigit_of_mem_ofNat c member)
  omega

theorem unbroken_subject : Unbroken r.subject := by
  have mark : Unbroken (Subject.markText r.breaking) := by
    cases r.breaking <;> decide
  have colon : Unbroken ": ".toList := by decide
  simp only [subject, unbroken_append]
  exact ⟨⟨⟨⟨r.unbroken_word, r.unbroken_scopeText⟩, mark⟩, colon⟩, r.unbroken_title⟩

theorem unbroken_link : Unbroken r.link := by
  have scheme : Unbroken "https://".toList := by decide
  have pull : Unbroken "/pull/".toList := by decide
  unfold link
  simp only [unbroken_append]
  exact ⟨⟨⟨scheme, r.unbroken_place⟩, pull⟩, r.unbroken_number⟩

theorem unbroken_line : Unbroken r.line := by
  have byWord : Unbroken " by @".toList := by decide
  have inWord : Unbroken " in ".toList := by decide
  simp only [line, unbroken_append]
  exact ⟨⟨⟨⟨r.unbroken_subject, byWord⟩, r.unbroken_author⟩, inWord⟩, r.unbroken_link⟩

def parts : Subject.Parts where
  kind := r.kind
  word := r.kind.word
  scope := r.scope?
  breaking := r.breaking
  gap := [' ']
  title := r.title
  spelled := r.kind.spells_word
  enclosed := by
    intro s member
    obtain ⟨given, rfl⟩ := r.enclosed_of_mem_scope? s member
    exact ⟨given, r.enclosed⟩
  spaced := by decide
  titled := r.titled.given
  oneLine := r.unbroken_title.no_lf

theorem parts_text : r.parts.text = r.subject := by
  simp [parts, Subject.Parts.text, subject]

theorem parse?_subject : Subject.parse? r.subject = some ⟨r.kind, r.scope, r.breaking, r.title⟩ := by
  have title : trim ([' '] ++ r.title) = r.title := by
    have space : Gap [' '] := by decide
    rw [trim, trimStart_append_of_blank space.blank]
    exact r.titled.trim_eq
  rw [← parts_text, r.parts.parse?_text]
  simp only [parts, Subject.Parts.subject, getD_scope?, r.lowered, title]

theorem trimmed_subject : Trimmed r.subject := by
  rw [← parts_text]
  exact r.parts.trimmed_text r.titled

theorem solid_path : Solid (r.place ++ "/pull/".toList ++ ofNat r.number.toNat) := by
  refine ⟨by simp, fun c member => ?_⟩
  simp only [List.mem_append] at member
  rcases member with (inPlace | inPull) | inNumber
  · exact r.placed c inPlace
  · have solid : Solid "/pull/".toList := by decide
    exact solid.solid c inPull
  · exact isSpace_of_isDigit (isDigit_of_isAsciiDigit (isAsciiDigit_of_mem_ofNat c inNumber))

theorem isWebAddress_link : IsWebAddress r.link := by
  refine ⟨"http".toList, ['s'], _, ?_, by decide, by simp, r.solid_path⟩
  unfold link
  simp

theorem pullNumber?_link : Item.pullNumber? r.link = some r.number.toNat := by
  have fits : r.number.toNat < Item.pullBound := r.number.toNat_lt
  exact Item.pullNumber?_append r.firstPull fits

def attribution : Attribution where
  subject := r.subject
  credit := .plain r.author r.link r.named r.isWebAddress_link
  trimmed := r.trimmed_subject
  oneLine := r.unbroken_subject.no_lf

theorem attribution_text : r.attribution.text = r.line := by
  simp [attribution, Attribution.text, Credit.text, Credit.plain, line]

theorem attribution_item : r.attribution.item = r.item := by
  simp only [attribution, Attribution.item, Credit.plain, item, pullNumber?_link, parse?_subject]

theorem trimmed_line : Trimmed r.line := by
  refine ⟨by simp [line], ?_, r.isWebAddress_link.solid.endsSolid_append _⟩
  simp only [line, List.append_assoc]
  exact (startsSolid_append _ r.trimmed_subject.given).mpr r.trimmed_subject.starts

theorem parse?_line : Item.parse? r.line = some r.item := by
  rw [← attribution_item]
  exact r.attribution.parse?_of_text (r.attribution_text.trans r.trimmed_line.trim_eq.symm)

theorem isHeader_line : isHeader r.line = true :=
  Item.isHeader_of_conventional r.parse?_line rfl

def bullet : Decoration where
  before := []
  bullet := "* ".toList
  number := []
  after := []
  blankBefore := by simp
  bulleted := .inr ⟨'*', [' '], by decide, by decide, by decide⟩
  numbered := .inl rfl
  blankAfter := by simp

theorem candidates_bulleted : candidates ("* ".toList ++ r.line) = [r.line] := by
  have mark : Unbroken "* ".toList := by decide
  have around : bullet.around r.line = "* ".toList ++ r.line := by
    simp [bullet, Decoration.around]
  rw [candidates_of_unbroken (unbroken_append.mpr ⟨mark, r.unbroken_line⟩), ← around,
    Line.candidate?_around bullet r.trimmed_line r.isHeader_line]
  rfl

/-- Of generated notes, however many there are, the candidates are the lines that were written, and reading
each gives the pull request it tells of. -/
theorem notes_round_trip (requests : List PullRequest) :
    candidates (notes requests) = requests.map line ∧
      (candidates (notes requests)).map Item.parse? = requests.map fun r => some r.item := by
  have written : candidates (notes requests) = requests.map line := by
    rw [notes, candidates_joinLines, List.flatMap_map]
    calc requests.flatMap (fun r => candidates ("* ".toList ++ r.line))
        = requests.flatMap (fun r => [r.line]) := List.flatMap_congr fun r _ => r.candidates_bulleted
      _ = requests.map line := List.flatMap_pure_eq_map line requests
  refine ⟨written, ?_⟩
  rw [written, List.map_map]
  refine List.map_congr_left fun r _ => ?_
  rw [Function.comp_apply, parse?_line]

/-- A follow-up whose title and scope try to be something else. -/
def followUp : PullRequest where
  kind := .fix
  scope := "a: (b".toList
  breaking := true
  title := "c)!: d by @ann in https://e/pull/1".toList
  author := "@bob".toList
  place := "f/pull/g".toList
  number := 18446744073709551615
  enclosed := by decide
  lowered := by decide
  titled := by decide
  named := by decide
  placed := (by decide : Solid "f/pull/g".toList).solid
  unbroken := by decide
  firstPull := by decide

theorem notes_round_trip_followUp :
    let notes := ("* fix(a: (b)!: c)!: d by @ann in https://e/pull/1 by @@bob in " ++
      "https://f/pull/g/pull/18446744073709551615").toList
    let item : Item := {
      subject := "fix(a: (b)!: c)!: d by @ann in https://e/pull/1".toList
      author := "@bob".toList
      link := "https://f/pull/g/pull/18446744073709551615".toList
      pull := some 18446744073709551615
      conventional := some ⟨.fix, "a: (b".toList, true, "c)!: d by @ann in https://e/pull/1".toList⟩ }
    candidates notes = [notes.drop 2] ∧ (candidates notes).map Item.parse? = [some item] := by
  intro notes item
  have written : PullRequest.notes [followUp] = notes := by decide +kernel
  have lines : [followUp].map line = [notes.drop 2] := by decide +kernel
  have told : [followUp].map (fun r => some r.item) = [some item] := by decide +kernel
  have round := notes_round_trip [followUp]
  rwa [written, lines, told] at round

end PullRequest

end ReleaseNotes
