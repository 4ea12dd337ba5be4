import ReleaseNotes.Proofs.Attribution
import ReleaseNotes.Proofs.Decoration
import ReleaseNotes.Proofs.Title

/-! Lines with a credit and a conventional subject. What is conventional and does not end in space is a header
whatever is added to it, so such a line is a candidate as it stands, and its subject is a header by
itself. -/
namespace ReleaseNotes

open Text

theorem isHeader_trim (line : Text) : isHeader (trim line) = isHeader line := by
  simp [isHeader]

theorem Line.candidate?_of_isHeader_line {line : Text} (header : isHeader line = true) :
    candidate? line = some (trim line) := by
  obtain ⟨before, after, whole, blankBefore, blankAfter⟩ := exists_trim line
  have headerTrim : isHeader (trim line) = true := by rwa [isHeader_trim]
  have trimmed : Trimmed (trim line) := by
    apply trimmed_trim
    intro nothing
    rw [nothing, not_isHeader_nil] at headerTrim
    contradiction
  -- A line without markers is dressed in space alone.
  let d : Decoration := ⟨before, [], [], after, blankBefore, .inl rfl, .inl rfl, blankAfter⟩
  have dressed : d.around (trim line) = line := whole.symm
  rw [← dressed, candidate?_around d trimmed headerTrim, dressed]

/-- A conventional subject on one line stays a header whatever is added to it, unless it ends in space. -/
theorem Subject.Parts.exists_form {p : Subject.Parts} (ends : EndsSolid p.text) (oneLine : '\n' ∉ p.text)
    (rest : Text) : ∃ form : Header.Form, form.text = p.text ++ rest := by
  obtain ⟨gap, divided, spaced, titled⟩ := exists_gap_of_endsSolid ends
  have folded := ((p.kind.spells_word_iff p.word).mp p.spelled).1
  have enclosed : ∀ s ∈ p.scope, s ≠ [] ∧ '\n' ∉ s := by
    intro s shape
    refine ⟨(p.enclosed s shape).1, fun feed => oneLine ?_⟩
    simp [text, scopeText, Option.mem_def.mp shape, feed]
  let form : Header.Form := {
    kind := p.kind, word := p.word, scope := p.scope, breaking := p.breaking, gap
    title := p.subject.title ++ rest
    spelled := (spellsLoosely_iff p.kind.letters_of_word p.word).mpr folded
    enclosed, spaced
    titled := by simp [titled.given]
    starts := (startsSolid_append rest titled.given).mpr titled.starts }
  refine ⟨form, ?_⟩
  have reached : gap ++ (p.subject.title ++ rest) = p.gap ++ p.title ++ rest := by
    rw [divided, List.append_assoc]
  simp [form, Header.Form.text, text, reached]

theorem Item.isHeader_of_conventional {line : Text} {item : Item} {subject : Subject}
    (read : Item.parse? line = some item) (conventional : item.conventional = some subject) :
    isHeader line = true := by
  obtain ⟨a, whole, rfl⟩ := Attribution.parse?_eq_some_iff.mp read
  obtain ⟨p, parted, rfl⟩ := Subject.Parts.exists_of_parse? conventional
  obtain ⟨form, onLine⟩ := p.exists_form (parted ▸ a.trimmed.ends) (parted ▸ a.oneLine) a.credit.text
  apply form.isHeader
  rw [onLine, parted, ← whole, Attribution.text]

/-- A line of its own with a credit and a conventional subject is a candidate as it stands, but for the space
around it. Its subject is a header too, and has a title, with no space around it. -/
theorem Item.candidates_of_conventional {line : Text} {item : Item} {subject : Subject}
    (unbroken : Unbroken line) (read : Item.parse? line = some item)
    (conventional : item.conventional = some subject) :
    candidates line = [trim line] ∧ isHeader item.subject = true ∧ Trimmed subject.title := by
  have header := isHeader_of_conventional read conventional
  obtain ⟨a, -, rfl⟩ := Attribution.parse?_eq_some_iff.mp read
  obtain ⟨p, parted, rfl⟩ := Subject.Parts.exists_of_parse? conventional
  have ends : EndsSolid p.text := parted ▸ a.trimmed.ends
  refine ⟨?_, ?_, ?_⟩
  · rw [candidates_of_unbroken unbroken, Line.candidate?_of_isHeader_line header, Option.toList_some]
  · obtain ⟨form, alone⟩ := p.exists_form ends (parted ▸ a.oneLine) []
    apply form.isHeader
    rw [alone, List.append_nil, parted]
    exact a.trimmed.trim_eq.symm
  · obtain ⟨-, -, -, titled⟩ := Subject.Parts.exists_gap_of_endsSolid ends
    exact titled

/-- A line in space, with an earlier credit in its title. -/
theorem Item.candidates_of_conventional_twiceCredited :
    let line := "\u2003Fix(A)!:\u00a0 b by @ann in http://x By\t@bob in https://y\t".toList
    let subject : Subject := ⟨.fix, "a".toList, true, "b by @ann in http://x".toList⟩
    let item : Item :=
      ⟨"Fix(A)!:\u00a0 b by @ann in http://x".toList, "bob".toList, "https://y".toList, none, some subject⟩
    Unbroken line ∧ Item.parse? line = some item ∧
      candidates line = ["Fix(A)!:\u00a0 b by @ann in http://x By\t@bob in https://y".toList] ∧
      isHeader item.subject = true ∧ Trimmed subject.title := by
  intro line subject item
  have unbroken : Unbroken line := by decide
  have read : Item.parse? line = some item := by decide +kernel
  obtain ⟨own, header, titled⟩ := candidates_of_conventional unbroken read rfl
  have trimmed : trim line = "Fix(A)!:\u00a0 b by @ann in http://x By\t@bob in https://y".toList := by
    decide +kernel
  rw [trimmed] at own
  exact ⟨unbroken, read, own, header, titled⟩

end ReleaseNotes
