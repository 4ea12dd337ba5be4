import ReleaseNotes.Proofs.Attribution
import ReleaseNotes.Proofs.Changelog
import ReleaseNotes.Proofs.Title

/-! Automatic dependency updates by their grammar. Of the candidates of a body these are the ones that go,
and no others: not a person's update, not one of another kind, not one without its credit. -/
namespace ReleaseNotes

open Text

/-- A line of the form `build(deps…)!: title by @dependabot… in link`. -/
structure DependencyUpdate where
  word : Text
  scope : Text
  breaking : Bool
  gap : Text
  title : Text
  credit : Credit
  spelled : Spells word "build".toList
  enclosed : Subject.IsScope scope
  onDependencies : "deps".toList <+: lowercase scope
  spaced : Gap gap
  titled : Trimmed title
  byBot : "dependabot".toList <+: lowercase credit.author

namespace DependencyUpdate

def text (u : DependencyUpdate) : Text :=
  u.word ++ '(' :: u.scope ++ ')' :: Subject.markText u.breaking ++ ':' :: u.gap ++ u.title ++
    u.credit.text

def parts (u : DependencyUpdate) (oneLine : '\n' ∉ u.title) : Subject.Parts where
  kind := .build
  word := u.word
  scope := some u.scope
  breaking := u.breaking
  gap := u.gap
  title := u.title
  spelled := u.spelled
  enclosed := by simp [u.enclosed]
  spaced := u.spaced
  titled := u.titled.given
  oneLine := oneLine

theorem text_eq (u : DependencyUpdate) (oneLine : '\n' ∉ u.title) :
    u.text = (u.parts oneLine).text ++ u.credit.text := by
  simp [text, parts, Subject.Parts.text, Subject.scopeText]

end DependencyUpdate

theorem not_isOwn_iff {line : Text} :
    isOwn line = false ↔ ∃ item subject, Item.parse? line = some item ∧
      Item.botName <+: lowercase item.author ∧ item.conventional = some subject ∧
      subject.kind = .build ∧ Item.dependencyScope <+: subject.scope := by
  have update : isOwn line = false ↔ ∃ found, bump? line = some found := by
    rw [isOwn, ← Option.isSome_iff_exists]
    cases bump? line <;> simp
  rw [update]
  constructor
  · rintro ⟨found, ruled⟩
    simp only [bump?, Item.bump?, Option.bind_eq_bind, Option.bind_eq_some_iff,
      Option.ite_none_right_eq_some, Option.filter_eq_some_iff, Bool.and_eq_true, beq_iff_eq,
      List.isPrefixOf_iff_prefix] at ruled
    obtain ⟨item, read, subject, ⟨bot, conventional, kind, scope⟩, -⟩ := ruled
    exact ⟨item, subject, read, bot, conventional, kind, scope⟩
  · rintro ⟨item, subject, read, bot, conventional, kind, scope⟩
    refine ⟨(item, subject), ?_⟩
    simp [bump?, Item.bump?, read, bot, conventional, Option.filter_some, kind, scope]

theorem exists_update_of_not_isOwn {line : Text} (trimmed : Trimmed line)
    (dropped : isOwn line = false) : ∃ u : DependencyUpdate, u.text = line := by
  obtain ⟨item, subject, read, bot, conventional, kind, scope⟩ := not_isOwn_iff.mp dropped
  obtain ⟨a, whole, rfl⟩ := Attribution.parse?_eq_some_iff.mp read
  obtain ⟨p, parted, rfl⟩ := Subject.Parts.exists_of_parse? conventional
  obtain ⟨gap, divided, spaced, titled⟩ := Subject.Parts.exists_gap_of_endsSolid
    (show EndsSolid p.text from parted ▸ a.trimmed.ends)
  obtain ⟨inner, shape⟩ : ∃ inner, p.scope = some inner := by
    cases shape : p.scope with
    | some inner => exact ⟨inner, rfl⟩
    | none => simp [Subject.Parts.subject, shape, Item.dependencyScope] at scope
  have spelled : Spells p.word "build".toList := by
    have word := p.spelled
    rwa [show p.kind = .build from kind] at word
  have onDependencies : "deps".toList <+: lowercase inner := by
    simpa [Subject.Parts.subject, shape, Item.dependencyScope] using scope
  let u : DependencyUpdate := {
    word := p.word, scope := inner, breaking := p.breaking, gap := gap, title := p.subject.title,
    credit := a.credit, spelled := spelled, enclosed := p.enclosed inner shape,
    onDependencies := onDependencies, spaced := spaced, titled := titled, byBot := bot }
  refine ⟨u, ?_⟩
  calc u.text = p.text ++ a.credit.text := by
        simp [u, DependencyUpdate.text, Subject.Parts.text, Subject.scopeText, shape, divided]
    _ = a.text := by rw [parted, Attribution.text]
    _ = line := by rw [whole, trimmed.trim_eq]

theorem DependencyUpdate.not_isOwn (u : DependencyUpdate) (unbroken : Unbroken u.text)
    (trimmed : Trimmed u.text) : isOwn u.text = false := by
  have oneLine : '\n' ∉ u.title := fun feed => unbroken.no_lf (by simp [text, feed])
  have subjectTrimmed : Trimmed (u.parts oneLine).text := (u.parts oneLine).trimmed_text u.titled
  have subjectOneLine : '\n' ∉ (u.parts oneLine).text := by
    intro feed
    apply unbroken.no_lf
    rw [u.text_eq oneLine]
    exact List.mem_append_left _ feed
  let a : Attribution := ⟨(u.parts oneLine).text, u.credit, subjectTrimmed, subjectOneLine⟩
  have read : Item.parse? u.text = some a.item := by
    apply a.parse?_of_text
    rw [trimmed.trim_eq, u.text_eq oneLine]
    rfl
  exact not_isOwn_iff.mpr ⟨a.item, (u.parts oneLine).subject, read, u.byBot,
    Subject.Parts.parse?_text _, rfl, u.onDependencies⟩

/-- A candidate is missing from the entries, and from every section, exactly when it has the form of an
automatic dependency update. -/
theorem Release.dropped_iff_dependencyUpdate (release : Release) {line : Text}
    (candidate : line ∈ candidates release.body) :
    (line ∉ release.entries ↔ ∃ u : DependencyUpdate, u.text = line) ∧
    ((∀ s, line ∉ release.document.changelog.get s) ↔ ∃ u : DependencyUpdate, u.text = line) := by
  obtain ⟨unbroken, trimmed, -⟩ := shape_of_mem_candidates candidate
  have dropped : line ∉ release.entries ↔ ∃ u : DependencyUpdate, u.text = line := by
    have kept : line ∈ release.entries ↔ isOwn line = true := by
      unfold Release.entries ReleaseNotes.entries
      rw [mem_kept]
      simp [candidate]
    rw [kept, Bool.not_eq_true]
    constructor
    · exact exists_update_of_not_isOwn trimmed
    · rintro ⟨u, rfl⟩
      exact u.not_isOwn unbroken trimmed
  refine ⟨dropped, ?_⟩
  rw [← dropped, ← release.exists_section_iff, not_exists]

def botUpdate : Text :=
  "Build(deps-dev)!: bump a by b by @Dependabot[bot] in https://h/1".toList

/-- A person's update whose title speaks of one by the bot. -/
def ownUpdate : Text :=
  "build(deps): redo by @dependabot in http://h by @ann in http://h".toList

/-- The bot's update goes, the one of a person stays. -/
theorem Release.botUpdate_dropped :
    let release : Release := { body := "* ".toList ++ botUpdate ++ "\n* ".toList ++ ownUpdate }
    (botUpdate ∈ candidates release.body ∧ ∃ u : DependencyUpdate, u.text = botUpdate) ∧
      (ownUpdate ∈ candidates release.body ∧ ¬∃ u : DependencyUpdate, u.text = ownUpdate) := by
  intro release
  have bot : botUpdate ∈ candidates release.body := by decide +kernel
  have own : ownUpdate ∈ candidates release.body := by decide +kernel
  refine ⟨⟨bot, ?_⟩, own, ?_⟩
  · exact (release.dropped_iff_dependencyUpdate bot).1.mp (by decide +kernel)
  · rw [← (release.dropped_iff_dependencyUpdate own).1]
    decide +kernel

end ReleaseNotes
