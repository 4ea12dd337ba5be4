import ReleaseNotes.Release.Json

/-! What reading an object back comes to. A document is read exactly where all its members are there and can be
read; otherwise the error is that of the first member, in the order of the visits, that is there and cannot be
read, and if there is none, of the first that is missing. -/
namespace ReleaseNotes

open Json

namespace Decoded

/-- The error of a value that cannot be read. -/
def fault? : Decoded α → Option DecodeError
  | .ok _ => none
  | .error error => some error

theorem fault?_eq_some_iff {decoded : Decoded α} {error : DecodeError} :
    decoded.fault? = some error ↔ decoded = .error error := by
  cases decoded <;> simp [fault?]

theorem bind_eq_ok_iff {decoded : Decoded α} {next : α → Decoded β} {b : β} :
    (decoded >>= next) = .ok b ↔ ∃ a, decoded = .ok a ∧ next a = .ok b := by
  cases decoded <;> simp [bind, Except.bind]

theorem bind_eq_error_iff {decoded : Decoded α} {next : α → Decoded β} {error : DecodeError} :
    (decoded >>= next) = .error error ↔ decoded = .error error ∨ ∃ a, decoded = .ok a ∧ next a = .error error := by
  cases decoded <;> simp [bind, Except.bind]

theorem required_eq_ok_iff {name : Text} {found : Option α} {a : α} :
    required name found = .ok a ↔ found = some a := by
  cases found <;> simp [required]

/-- The error of the member of that name, if it is there and cannot be read. -/
def memberFault? (decode : Value → Decoded α) (members : List (Text × Value)) (name : Text) :
    Option DecodeError :=
  (member? name members).bind fun value => (decode value).fault?

def missing? (members : List (Text × Value)) (name : Text) : Option DecodeError :=
  if (member? name members).isNone then some (.missing name) else none

section Members

variable {decode : Value → Decoded α} {name : Text} {members : List (Text × Value)}

theorem fault?_optional : (optional decode name members).fault? = memberFault? decode members name := by
  unfold optional memberFault?
  cases member? name members with
  | none => rfl
  | some value =>
    dsimp only [Option.bind_some]
    cases decode value <;> rfl

theorem optional_congr {others : List (Text × Value)} (same : member? name members = member? name others) :
    optional decode name members = optional decode name others := by
  rw [Decoded.optional, same, ← Decoded.optional]

theorem optional_eq_ok_some_iff {a : α} :
    optional decode name members = .ok (some a) ↔
      ∃ value, member? name members = some value ∧ decode value = .ok a := by
  unfold optional
  cases member? name members with
  | none => simp
  | some value =>
    simp only [Option.some.injEq, exists_eq_left']
    cases decode value <;> simp [Except.map]

theorem isNone_of_optional {found : Option α} (read : optional decode name members = .ok found) :
    found.isNone = (member? name members).isNone := by
  unfold optional at read
  cases at? : member? name members with
  | none =>
    rw [at?] at read
    cases read
    rfl
  | some value =>
    rw [at?] at read
    dsimp only at read
    cases decoded : decode value with
    | error error => simp [decoded, Except.map] at read
    | ok a =>
      rw [decoded] at read
      cases read
      rfl

theorem fault?_visit {next : Option α → Decoded β} {later : Option DecodeError}
    (behind : ∀ found, optional decode name members = .ok found → (next found).fault? = later) :
    (optional decode name members >>= next).fault? = (memberFault? decode members name).or later := by
  rw [← fault?_optional]
  cases read : optional decode name members with
  | error error => rfl
  | ok found => exact behind found read

theorem fault?_require {found : Option α} {next : α → Decoded β} {later : Option DecodeError}
    (read : optional decode name members = .ok found) (behind : ∀ a, (next a).fault? = later) :
    (required name found >>= next).fault? = (missing? members name).or later := by
  rw [missing?, ← isNone_of_optional read]
  cases found with
  | none => rfl
  | some a => exact behind a

end Members

end Decoded

open Decoded

theorem decodeText_eq_ok_iff {value : Value} {text : Text} :
    decodeText value = .ok text ↔ value = .string text := by
  cases value <;> simp [decodeText]

theorem decodeTextList_eq_ok_iff {value : Value} {texts : List Text} :
    decodeTextList value = .ok texts ↔ value = textList texts := by
  cases value with
  | array items =>
    simp only [decodeTextList, textList, Value.array.injEq]
    induction items generalizing texts with
    | nil =>
      cases texts <;> simp [pure, Except.pure]
    | cons item rest ih =>
      simp only [List.mapM_cons, bind_eq_ok_iff, decodeText_eq_ok_iff, ih]
      cases texts <;> simp [pure, Except.pure]
  | _ => simp [decodeTextList, textList]

theorem findSome?_cons_eq_or {α β : Type} (f : α → Option β) (a : α) (rest : List α) :
    (a :: rest).findSome? f = (f a).or (rest.findSome? f) := by
  rw [List.findSome?_cons]
  cases f a <;> rfl

/-- The sections in the order in which they are visited. -/
def Section.visited : List Section :=
  [.added, .changed, .deprecated, .fixed, .other, .removed, .security]

namespace Sections

theorem ofValue_object_eq_ok_iff {members : List (Text × Value)} {sections : Sections} :
    ofValue (.object members) = .ok sections ↔
      ∀ s : Section, member? s.title members = some (textList (sections.get s)) := by
  have read : ∀ s : Section, member? s.title members = some (textList (sections.get s)) ↔
      optional decodeTextList s.title members = .ok (some (sections.get s)) := by
    simp [optional_eq_ok_some_iff, decodeTextList_eq_ok_iff]
  simp only [read, ofValue, bind_eq_ok_iff, required_eq_ok_iff]
  constructor
  · rintro ⟨_, added, _, changed, _, deprecated, _, fixed, _, other, _, removed, _, security,
      _, rfl, _, rfl, _, rfl, _, rfl, _, rfl, _, rfl, _, rfl, whole⟩ s
    cases whole
    cases s with
    | added => exact added
    | changed => exact changed
    | deprecated => exact deprecated
    | removed => exact removed
    | fixed => exact fixed
    | security => exact security
    | other => exact other
  · intro all
    exact ⟨_, all .added, _, all .changed, _, all .deprecated, _, all .fixed, _, all .other, _, all .removed,
      _, all .security, _, rfl, _, rfl, _, rfl, _, rfl, _, rfl, _, rfl, _, rfl, rfl⟩

theorem toValue_eq (sections : Sections) :
    sections.toValue = .object (Section.all.map fun s => (s.title, textList (sections.get s))) := by
  simp only [toValue, toList, List.map_map]
  rfl

theorem member?_title (sections : Sections) (s : Section) :
    member? s.title (Section.all.map fun s => (s.title, textList (sections.get s))) =
      some (textList (sections.get s)) := by
  cases s <;> rfl

theorem ofValue_toValue (sections : Sections) : ofValue sections.toValue = .ok sections := by
  rw [toValue_eq]
  exact ofValue_object_eq_ok_iff.mpr sections.member?_title

theorem fault?_ofValue_object (members : List (Text × Value)) :
    (ofValue (.object members)).fault? =
      ((Section.visited.map Section.title).findSome? (memberFault? decodeTextList members)).or
        ((Section.all.map Section.title).findSome? (missing? members)) := by
  simp only [Section.visited, Section.all, List.map_cons, List.map_nil, findSome?_cons_eq_or, Option.or_assoc,
    List.findSome?_nil, Option.none_or]
  refine fault?_visit fun _ added => ?_
  refine fault?_visit fun _ changed => ?_
  refine fault?_visit fun _ deprecated => ?_
  refine fault?_visit fun _ fixed => ?_
  refine fault?_visit fun _ other => ?_
  refine fault?_visit fun _ removed => ?_
  refine fault?_visit fun _ security => ?_
  refine fault?_require added fun _ => ?_
  refine fault?_require changed fun _ => ?_
  refine fault?_require deprecated fun _ => ?_
  refine fault?_require removed fun _ => ?_
  refine fault?_require fixed fun _ => ?_
  refine fault?_require security fun _ => ?_
  exact fault?_require other fun _ => rfl

end Sections

namespace Document

def changelogName : Text :=
  "keep_a_changelog".toList

/-- The error of the member of that name. -/
def fault? (members : List (Text × Value)) (name : Text) : Option DecodeError :=
  if name = changelogName then memberFault? Sections.ofValue members name
  else memberFault? decodeText members name

/-- The names of the members in the order in which they are visited. -/
def visited : List Text :=
  ["date".toList, changelogName, "source_repo".toList, "tag".toList, "version".toList]

theorem ofValue_object_eq_ok_iff {members : List (Text × Value)} {document : Document} :
    ofValue (.object members) = .ok document ↔
      member? "version".toList members = some (.string document.version) ∧
      member? "tag".toList members = some (.string document.tag) ∧
      member? "date".toList members = some (.string document.date) ∧
      member? "source_repo".toList members = some (.string document.sourceRepo) ∧
      ∃ value, member? changelogName members = some value ∧
        Sections.ofValue value = .ok document.changelog := by
  have read : ∀ name text, member? name members = some (.string text) ↔
      optional decodeText name members = .ok (some text) := by
    simp [optional_eq_ok_some_iff, decodeText_eq_ok_iff]
  simp only [read, ← optional_eq_ok_some_iff, ofValue, bind_eq_ok_iff, required_eq_ok_iff]
  constructor
  · rintro ⟨_, date, _, changelog, _, sourceRepo, _, tag, _, version,
      _, rfl, _, rfl, _, rfl, _, rfl, _, rfl, whole⟩
    cases whole
    exact ⟨version, tag, date, sourceRepo, changelog⟩
  · rintro ⟨version, tag, date, sourceRepo, changelog⟩
    exact ⟨_, date, _, changelog, _, sourceRepo, _, tag, _, version,
      _, rfl, _, rfl, _, rfl, _, rfl, _, rfl, rfl⟩

theorem ofValue_toValue (document : Document) : ofValue document.toValue = .ok document :=
  ofValue_object_eq_ok_iff.mpr ⟨rfl, rfl, rfl, rfl, _, rfl, document.changelog.ofValue_toValue⟩

theorem fault?_ofValue_object (members : List (Text × Value)) :
    (ofValue (.object members)).fault? =
      (visited.findSome? (fault? members)).or (Shape.document.members.findSome? (missing? members)) := by
  have ofText : ∀ name, name ≠ changelogName → fault? members name = memberFault? decodeText members name :=
    fun name apart => if_neg apart
  have ofSections : fault? members changelogName = memberFault? Sections.ofValue members changelogName :=
    if_pos rfl
  simp only [visited, Shape.members, findSome?_cons_eq_or, Option.or_assoc, List.findSome?_nil,
    Option.none_or, ofSections, ofText _ (show "date".toList ≠ changelogName by decide),
    ofText _ (show "source_repo".toList ≠ changelogName by decide),
    ofText _ (show "tag".toList ≠ changelogName by decide),
    ofText _ (show "version".toList ≠ changelogName by decide)]
  refine fault?_visit fun _ date => ?_
  refine fault?_visit fun _ changelog => ?_
  refine fault?_visit fun _ sourceRepo => ?_
  refine fault?_visit fun _ tag => ?_
  refine fault?_visit fun _ version => ?_
  refine fault?_require version fun _ => ?_
  refine fault?_require tag fun _ => ?_
  refine fault?_require date fun _ => ?_
  refine fault?_require sourceRepo fun _ => ?_
  exact fault?_require changelog fun _ => rfl

end Document

end ReleaseNotes
