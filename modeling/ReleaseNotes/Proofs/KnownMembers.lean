import Mathlib.Data.List.Forall2
import ReleaseNotes.Proofs.Decoding

/-! The objects that are read as a document. Members with other names than those of a document do not matter, in
the object and in the one that holds the sections; without them an object is read as a document exactly where it
is the value of that document. -/
namespace ReleaseNotes

namespace Json

/-- The same value, whatever the order of members: an object is what is found under each name. -/
inductive Value.Same : Value → Value → Prop where
  | null : Same .null .null
  | bool (value : Bool) : Same (.bool value) (.bool value)
  | number (spelling : Text) : Same (.number spelling) (.number spelling)
  | string (text : Text) : Same (.string text) (.string text)
  | array {items others : List Value} : List.Forall₂ Same items others → Same (.array items) (.array others)
  | object {members others : List (Text × Value)} :
      (∀ name, Option.Rel Same (member? name members) (member? name others)) →
      Same (.object members) (.object others)

theorem same_string_iff {v : Value} {text : Text} : v.Same (.string text) ↔ v = .string text := by
  constructor
  · intro same
    cases same
    rfl
  · rintro rfl
    exact .string text

theorem forall₂_same_strings_iff {items : List Value} {texts : List Text} :
    List.Forall₂ Value.Same items (texts.map .string) ↔ items = texts.map .string := by
  induction texts generalizing items with
  | nil => simp
  | cons text rest ih => cases items <;> simp [same_string_iff, ih]

theorem rel_some_iff {r : Value → Value → Prop} {found : Option Value} {w : Value} :
    Option.Rel r found (some w) ↔ ∃ v, found = some v ∧ r v w := by
  constructor
  · rintro ⟨same⟩
    exact ⟨_, rfl, same⟩
  · rintro ⟨v, rfl, same⟩
    exact .some same

/-- Where there are members of some names only, these are all that matter. -/
theorem same_object_iff {names : List Text} {members others : List (Text × Value)}
    (noMore : ∀ name ∉ names, member? name members = none ∧ member? name others = none) :
    (Value.object members).Same (.object others) ↔
      ∀ name ∈ names, Option.Rel Value.Same (member? name members) (member? name others) := by
  constructor
  · rintro (_ | _ | _ | _ | _ | same) name -
    exact same name
  · intro same
    refine .object fun name => ?_
    by_cases asked : name ∈ names
    · exact same name asked
    · rw [(noMore name asked).1, (noMore name asked).2]
      exact .none

theorem member?_eq_none_iff {name : Text} {members : List (Text × Value)} :
    member? name members = none ↔ name ∉ members.map Prod.fst := by
  rw [member?, Option.map_eq_none_iff, List.find?_eq_none]
  constructor
  · intro unlike listed
    obtain ⟨member, among, rfl⟩ := List.mem_map.mp listed
    exact unlike member among (beq_self_eq_true _)
  · intro unlisted member listed named
    exact unlisted (List.mem_map.mpr ⟨member, listed, beq_iff_eq.mp named⟩)

def only (names : List Text) (members : List (Text × Value)) : List (Text × Value) :=
  members.filter fun member => names.contains member.1

/-- An object without the members of other names; any other value as it is. -/
def Value.only (names : List Text) : Value → Value
  | .object members => .object (Json.only names members)
  | v => v

theorem member?_only (names : List Text) (members : List (Text × Value)) (name : Text) :
    member? name (only names members) = if name ∈ names then member? name members else none := by
  rw [member?, only, List.find?_filter]
  split
  · rename_i asked
    rw [member?]
    congr 2
    funext member
    by_cases same : member.1 = name <;> simp [same, asked]
  · rename_i unasked
    rw [Option.map_eq_none_iff, List.find?_eq_none]
    rintro member -
    by_cases same : member.1 = name <;> simp [same, unasked]

theorem member?_map (change : Text → Value → Value) (members : List (Text × Value)) (name : Text) :
    member? name (members.map fun member => (member.1, change member.1 member.2)) =
      (member? name members).map (change name) := by
  induction members with
  | nil => rfl
  | cons member rest ih =>
    by_cases same : member.1 = name
    · subst same
      simp [member?]
    · simpa [member?, same] using ih

end Json

open Json Decoded

theorem same_textList_iff {v : Value} {texts : List Text} : v.Same (textList texts) ↔ v = textList texts := by
  constructor
  · intro same
    cases same with
    | array items => rw [textList, forall₂_same_strings_iff.mp items]
  · rintro rfl
    exact .array (forall₂_same_strings_iff.mpr rfl)

namespace Sections

theorem member?_of_not_title (sections : Sections) {name : Text} (unasked : name ∉ Shape.sections.members) :
    member? name (Section.all.map fun s => (s.title, textList (sections.get s))) = none := by
  rw [member?_eq_none_iff, List.map_map]
  exact unasked

theorem same_only_toValue_iff {value : Value} {sections : Sections} (noArray : ∀ items, value ≠ .array items) :
    (value.only Shape.sections.members).Same sections.toValue ↔ ofValue value = .ok sections := by
  cases value with
  | object members =>
    have noMore : ∀ name ∉ Shape.sections.members,
        member? name (only Shape.sections.members members) = none ∧
        member? name (Section.all.map fun s => (s.title, textList (sections.get s))) = none := by
      intro name unasked
      rw [member?_only, if_neg unasked, member?_of_not_title sections unasked]
      exact ⟨rfl, rfl⟩
    have titled : ∀ s : Section, s.title ∈ Shape.sections.members :=
      fun s => List.mem_map_of_mem (Section.mem_all s)
    have each : ∀ s : Section, Option.Rel Value.Same (member? s.title (only Shape.sections.members members))
        (member? s.title (Section.all.map fun s => (s.title, textList (sections.get s)))) ↔
        member? s.title members = some (textList (sections.get s)) := by
      intro s
      rw [member?_only, if_pos (titled s), member?_title, rel_some_iff]
      simp [same_textList_iff]
    rw [toValue_eq, Value.only, same_object_iff noMore, ofValue_object_eq_ok_iff]
    constructor
    · intro same s
      exact (each s).mp (same s.title (titled s))
    · intro found name asked
      obtain ⟨s, -, rfl⟩ := List.mem_map.mp asked
      exact (each s).mpr (found s)
  | array items => exact absurd rfl (noArray items)
  | _ =>
    constructor
    · rintro ⟨⟩
    · rintro ⟨⟩

/-- Unknown members do not matter, not even for the error. -/
theorem ofValue_only (value : Value) : ofValue (value.only Shape.sections.members) = ofValue value := by
  cases value with
  | object members =>
    have each : ∀ s : Section, optional decodeTextList s.title (only Shape.sections.members members) =
        optional decodeTextList s.title members := by
      intro s
      have asked : s.title ∈ Shape.sections.members := List.mem_map_of_mem (Section.mem_all s)
      exact optional_congr (by rw [member?_only, if_pos asked])
    simp only [Value.only, ofValue, each]
  | _ => rfl

end Sections

namespace Document

/-- As much as matters of the value of a member. -/
def knownPart (name : Text) (value : Value) : Value :=
  if name = changelogName then value.only Shape.sections.members else value

/-- The members that matter for a document, as far as they do. -/
def known (members : List (Text × Value)) : List (Text × Value) :=
  (only Shape.document.members members).map fun member => (member.1, knownPart member.1 member.2)

theorem member?_known_of_not_mem {name : Text} (unasked : name ∉ Shape.document.members)
    (members : List (Text × Value)) : member? name (known members) = none := by
  rw [known, member?_map, member?_only, if_neg unasked]
  rfl

theorem member?_known_text {name : Text} (asked : name ∈ Shape.document.members) (apart : name ≠ changelogName)
    (members : List (Text × Value)) : member? name (known members) = member? name members := by
  have whole : knownPart name = id := funext fun value => if_neg apart
  rw [known, member?_map, member?_only, if_pos asked, whole, Option.map_id_fun, id]

theorem member?_known_changelog (members : List (Text × Value)) :
    member? changelogName (known members) =
      (member? changelogName members).map (Value.only Shape.sections.members) := by
  rw [known, member?_map, member?_only, if_pos (by decide)]
  rfl

theorem ofValue_known (members : List (Text × Value)) :
    ofValue (.object (known members)) = ofValue (.object members) := by
  have text : ∀ name ∈ Shape.document.members, name ≠ changelogName →
      Decoded.optional decodeText name (known members) = Decoded.optional decodeText name members :=
    fun name asked apart => optional_congr (member?_known_text asked apart members)
  have changelog : Decoded.optional Sections.ofValue changelogName (known members) =
      Decoded.optional Sections.ofValue changelogName members := by
    rw [Decoded.optional, member?_known_changelog, Decoded.optional]
    cases member? changelogName members with
    | none => rfl
    | some value => simp only [Option.map_some, Sections.ofValue_only]
  have date := text "date".toList (by decide) (by decide)
  have sourceRepo := text "source_repo".toList (by decide) (by decide)
  have tag := text "tag".toList (by decide) (by decide)
  have version := text "version".toList (by decide) (by decide)
  unfold changelogName at changelog
  simp only [ofValue, date, changelog, sourceRepo, tag, version]

section Same

variable {members : List (Text × Value)} {document : Document}

theorem rel_known_text_iff (name text : Text) (asked : name ∈ Shape.document.members)
    (apart : name ≠ changelogName) :
    Option.Rel Value.Same (member? name (known members)) (some (.string text)) ↔
      member? name members = some (.string text) := by
  rw [member?_known_text asked apart, rel_some_iff]
  simp [same_string_iff]

theorem rel_known_changelog_iff (noArray : ∀ items, member? changelogName members ≠ some (.array items)) :
    Option.Rel Value.Same (member? changelogName (known members)) (some document.changelog.toValue) ↔
      ∃ value, member? changelogName members = some value ∧ Sections.ofValue value = .ok document.changelog := by
  have each : ∀ value, member? changelogName members = some value →
      ((value.only Shape.sections.members).Same document.changelog.toValue ↔
        Sections.ofValue value = .ok document.changelog) :=
    fun value present => Sections.same_only_toValue_iff fun items array => noArray items (array ▸ present)
  rw [member?_known_changelog, rel_some_iff]
  constructor
  · rintro ⟨_, found, same⟩
    obtain ⟨value, present, rfl⟩ := Option.map_eq_some_iff.mp found
    exact ⟨value, present, (each value present).mp same⟩
  · rintro ⟨value, present, read⟩
    exact ⟨_, congrArg (Option.map _) present, (each value present).mpr read⟩

theorem same_known_toValue_iff (noArray : ∀ items, member? changelogName members ≠ some (.array items)) :
    (Value.object (known members)).Same document.toValue ↔ ofValue (.object members) = .ok document := by
  have noMore : ∀ name ∉ Shape.document.members, member? name (known members) = none ∧
      member? name
        [("version".toList, .string document.version),
         ("tag".toList, .string document.tag),
         ("date".toList, .string document.date),
         ("source_repo".toList, .string document.sourceRepo),
         ("keep_a_changelog".toList, document.changelog.toValue)] = none := by
    intro name unasked
    exact ⟨member?_known_of_not_mem unasked members, member?_eq_none_iff.mpr unasked⟩
  rw [toValue, same_object_iff noMore, ofValue_object_eq_ok_iff]
  rw [← rel_known_text_iff "version".toList document.version (by decide) (by decide),
    ← rel_known_text_iff "tag".toList document.tag (by decide) (by decide),
    ← rel_known_text_iff "date".toList document.date (by decide) (by decide),
    ← rel_known_text_iff "source_repo".toList document.sourceRepo (by decide) (by decide),
    ← rel_known_changelog_iff noArray]
  constructor
  · intro same
    exact ⟨same _ (by decide), same _ (by decide), same _ (by decide), same _ (by decide), same _ (by decide)⟩
  · rintro ⟨version, tag, date, sourceRepo, changelog⟩
    simp only [Shape.members, List.forall_mem_cons]
    exact ⟨version, tag, date, sourceRepo, changelog, List.forall_mem_nil _⟩

end Same

/-- An object is read as a document exactly where, without its unknown members, it is the value of that document;
only an array in the place of the sections is read by another rule. Two objects that differ in unknown members
only are read alike, whether as a document or with an error. -/
theorem ofValue_exact :
    (∀ members : List (Text × Value), (∀ items, member? changelogName members ≠ some (.array items)) →
      ∀ document : Document,
        ofValue (.object members) = .ok document ↔ (Value.object (known members)).Same document.toValue) ∧
    ∀ members others : List (Text × Value), known members = known others →
      ofValue (.object members) = ofValue (.object others) := by
  constructor
  · intro members noArray document
    exact (same_known_toValue_iff noArray).symm
  · intro members others same
    rw [← ofValue_known members, same, ofValue_known others]

/-- The members of a document in an order of their own, with a `Tag` and a `zeta` that mean nothing, and with
`extra` among its sections. -/
def withUnknown (extra : List (Text × Value)) : List (Text × Value) :=
  [("zeta".toList, .null),
   ("keep_a_changelog".toList, .object (extra ++
     [("Other".toList, .array []), ("Added".toList, textList ["one".toList, "two".toList]),
      ("Changed".toList, .array []), ("Deprecated".toList, .array []), ("Removed".toList, .array []),
      ("Fixed".toList, textList ["three".toList]), ("Security".toList, .array [])])),
   ("Tag".toList, .bool true), ("tag".toList, .string "v1".toList), ("version".toList, .string "1".toList),
   ("source_repo".toList, .string "r".toList), ("date".toList, .string [])]

def ofUnknown : Document where
  version := "1".toList
  tag := "v1".toList
  date := []
  sourceRepo := "r".toList
  changelog :=
    { added := ["one".toList, "two".toList], changed := [], deprecated := [], removed := [],
      fixed := ["three".toList], security := [], other := [] }

/-- Reading such members, and the same with other unknown ones. -/
theorem ofValue_exact_unknown :
    (Value.object (known (withUnknown []))).Same ofUnknown.toValue ∧
    ofValue (.object (withUnknown [("Addenda".toList, .number "7".toList), ("added".toList, .null)])) =
      .ok ofUnknown := by
  obtain ⟨valueOf, alike⟩ := ofValue_exact
  have noArray : ∀ items, member? changelogName (withUnknown []) ≠ some (.array items) := by
    rintro items ⟨⟩
  have read : ofValue (.object (withUnknown [])) = .ok ofUnknown := rfl
  exact ⟨(valueOf _ noArray _).mp read, (alike _ _ rfl).trans read⟩

end Document

end ReleaseNotes
