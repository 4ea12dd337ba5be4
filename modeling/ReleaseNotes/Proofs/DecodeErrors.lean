import ReleaseNotes.Proofs.Decoding

/-! The error with which an object is refused. What is there and cannot be read comes before what is missing,
and the two are looked for in different orders: the former by the bytes of the names, the latter as a document
is written. The members of the inner object are searched to the end before the outer search goes on. -/
namespace ReleaseNotes

open Json Decoded Text

/-- The error for the members of an object, some names of which are asked for, where `fault?` tells the errors of
those that are there: that of the name which is least by its bytes, and where none has an error, that of the first
name without a member. -/
inductive Reported (names : List Text) (fault? : Text → Option DecodeError) (members : List (Text × Value)) :
    DecodeError → Prop where
  | unread {name : Text} {error : DecodeError} (asked : name ∈ names) (fault : fault? name = some error)
      (least : ∀ other ∈ names, other ≠ name → (fault? other).isSome → utf8 name < utf8 other) :
      Reported names fault? members error
  | missing {before after : List Text} {name : Text} (whole : names = before ++ name :: after)
      (sound : ∀ other ∈ names, fault? other = none) (present : ∀ other ∈ before, member? other members ≠ none)
      (absent : member? name members = none) :
      Reported names fault? members (.missing name)

section Reports

variable {names visited : List Text} {fault? : Text → Option DecodeError} {members : List (Text × Value)}
  {error : DecodeError}

/-- In a list that is sorted by the bytes of the names the first name with an error is the least one. -/
theorem findSome?_fault_eq_some_iff (sorted : visited.Pairwise fun a b => utf8 a < utf8 b) :
    visited.findSome? fault? = some error ↔
      ∃ name ∈ visited, fault? name = some error ∧
        ∀ other ∈ visited, other ≠ name → (fault? other).isSome → utf8 name < utf8 other := by
  constructor
  · intro found
    obtain ⟨before, name, after, whole, fault, sound⟩ := List.findSome?_eq_some_iff.mp found
    subst whole
    refine ⟨name, by simp, fault, fun other member apart faulty => ?_⟩
    rcases List.mem_append.mp member with earlier | here
    · simp [sound other earlier] at faulty
    · have later : other ∈ after := (List.mem_cons.mp here).resolve_left apart
      exact (List.pairwise_cons.mp (List.pairwise_append.mp sorted).2.1).1 other later
  · rintro ⟨name, member, fault, least⟩
    obtain ⟨before, after, rfl⟩ := List.append_of_mem member
    refine List.findSome?_eq_some_iff.mpr ⟨before, name, after, rfl, fault, fun other earlier => ?_⟩
    have lower : utf8 other < utf8 name := (List.pairwise_append.mp sorted).2.2 other earlier name (by simp)
    have apart : other ≠ name := by
      rintro rfl
      exact List.lt_irrefl _ lower
    cases faulty : fault? other with
    | none => rfl
    | some error =>
      have higher := least other (by simp [earlier]) apart (by simp [faulty])
      exact absurd higher (List.lt_asymm lower)

theorem findSome?_missing_eq_some_iff :
    names.findSome? (missing? members) = some error ↔
      ∃ before name after, names = before ++ name :: after ∧ (∀ other ∈ before, member? other members ≠ none) ∧
        member? name members = none ∧ error = .missing name := by
  have present : ∀ name, missing? members name = none ↔ member? name members ≠ none := by
    simp [missing?]
  have absent : ∀ name, missing? members name = some error ↔
      member? name members = none ∧ error = .missing name := by
    intro name
    rw [missing?]
    cases member? name members <;> simp [eq_comm]
  simp only [List.findSome?_eq_some_iff, present, absent]
  constructor
  · rintro ⟨before, name, after, whole, ⟨gone, error⟩, there⟩
    exact ⟨before, name, after, whole, there, gone, error⟩
  · rintro ⟨before, name, after, whole, there, gone, error⟩
    exact ⟨before, name, after, whole, ⟨gone, error⟩, there⟩

theorem reported_iff (sorted : visited.Pairwise fun a b => utf8 a < utf8 b) (same : visited.Perm names) :
    (visited.findSome? fault?).or (names.findSome? (missing? members)) = some error ↔
      Reported names fault? members error := by
  rw [Option.or_eq_some_iff, findSome?_fault_eq_some_iff sorted, List.findSome?_eq_none_iff,
    findSome?_missing_eq_some_iff]
  simp only [same.mem_iff]
  constructor
  · rintro (⟨name, asked, fault, least⟩ | ⟨sound, before, name, after, whole, present, absent, rfl⟩)
    · exact .unread asked fault least
    · exact .missing whole sound present absent
  · rintro (⟨asked, fault, least⟩ | ⟨whole, sound, present, absent⟩)
    · exact .inl ⟨_, asked, fault, least⟩
    · exact .inr ⟨sound, _, _, _, whole, present, absent, rfl⟩

end Reports

theorem decodeText_eq_error_iff {value : Value} {error : DecodeError} :
    decodeText value = .error error ↔ (∀ text, value ≠ .string text) ∧ error = .mismatch value .string := by
  cases value <;> simp [decodeText, eq_comm]

theorem mapM_eq_error_iff {α β : Type} {decode : α → Decoded β} {items : List α} {error : DecodeError} :
    items.mapM decode = .error error ↔
      ∃ before item after, items = before ++ item :: after ∧ (∀ earlier ∈ before, ∃ b, decode earlier = .ok b) ∧
        decode item = .error error := by
  induction items with
  | nil => simp [pure, Except.pure]
  | cons first rest ih =>
    rw [List.mapM_cons, bind_eq_error_iff]
    constructor
    · rintro (unread | ⟨b, read, behind⟩)
      · exact ⟨[], first, rest, rfl, by simp, unread⟩
      · rcases bind_eq_error_iff.mp behind with unread | ⟨others, -, done⟩
        · obtain ⟨before, item, after, whole, sound, fault⟩ := ih.mp unread
          exact ⟨first :: before, item, after, by simp [whole], by simpa [read] using sound, fault⟩
        · cases done
    · rintro ⟨before, item, after, whole, sound, fault⟩
      cases before with
      | nil =>
        obtain ⟨rfl, rfl⟩ := List.cons.inj whole
        exact .inl fault
      | cons earlier before =>
        obtain ⟨rfl, rest⟩ := List.cons.inj whole
        obtain ⟨b, read⟩ := sound first (by simp)
        have behind := ih.mpr ⟨before, item, after, rest, fun y member => sound y (by simp [member]), fault⟩
        exact .inr ⟨b, read, bind_eq_error_iff.mpr (.inl behind)⟩

theorem decodeTextList_array_eq_error_iff {items : List Value} {error : DecodeError} :
    decodeTextList (.array items) = .error error ↔
      ∃ before item after, items = before ++ item :: after ∧ (∀ earlier ∈ before, ∃ text, earlier = .string text) ∧
        (∀ text, item ≠ .string text) ∧ error = .mismatch item .string := by
  simp only [decodeTextList, mapM_eq_error_iff, decodeText_eq_ok_iff, decodeText_eq_error_iff]

theorem Sections.ofValue_object_eq_error_iff {members : List (Text × Value)} {error : DecodeError} :
    ofValue (.object members) = .error error ↔
      Reported Shape.sections.members (memberFault? decodeTextList members) members error := by
  rw [← fault?_eq_some_iff, fault?_ofValue_object]
  exact reported_iff (by decide) (by decide)

theorem Document.ofValue_object_eq_error_iff {members : List (Text × Value)} {error : DecodeError} :
    ofValue (.object members) = .error error ↔
      Reported Shape.document.members (fault? members) members error := by
  rw [← fault?_eq_some_iff, fault?_ofValue_object]
  exact reported_iff (by decide) (by decide)

namespace Document

/-- An object is no document for exactly one reason. A member that is there and cannot be read is reported before
one that is missing: among the former the one whose name is least by its bytes, among the latter the first of
those that a document is written with. The sections are refused in the same way within their member, one of them
for its first item that is no string, and every other value for its own kind. -/
theorem reported_exact :
    (∀ members error, ofValue (.object members) = .error error ↔
      Reported Shape.document.members (fault? members) members error) ∧
    (∀ members error, Sections.ofValue (.object members) = .error error ↔
      Reported Shape.sections.members (memberFault? decodeTextList members) members error) ∧
    (∀ value, (∀ members, value ≠ .object members) → (∀ items, value ≠ .array items) →
      Sections.ofValue value = .error (.mismatch value .sections)) ∧
    (∀ items error, decodeTextList (.array items) = .error error ↔
      ∃ before item after, items = before ++ item :: after ∧ (∀ earlier ∈ before, ∃ text, earlier = .string text) ∧
        (∀ text, item ≠ .string text) ∧ error = .mismatch item .string) ∧
    (∀ value, (∀ items, value ≠ .array items) → decodeTextList value = .error (.mismatch value .sequence)) ∧
    ∀ value error, decodeText value = .error error ↔
      (∀ text, value ≠ .string text) ∧ error = .mismatch value .string := by
  refine ⟨fun _ _ => ofValue_object_eq_error_iff, fun _ _ => Sections.ofValue_object_eq_error_iff, ?_,
    fun _ _ => decodeTextList_array_eq_error_iff, ?_, fun _ _ => decodeText_eq_error_iff⟩
  · intro value noObject noArray
    cases value with
    | object members => exact absurd rfl (noObject members)
    | array items => exact absurd rfl (noArray items)
    | _ => rfl
  · intro value noArray
    cases value with
    | array items => exact absurd rfl (noArray items)
    | _ => rfl

/-- A missing section comes before a bad source repository, and a bad version before a missing tag. -/
theorem reported_exact_outranked :
    ofValue (.object [("source_repo".toList, .null), (changelogName, .object [])]) =
      .error (.missing "Added".toList) ∧
    ofValue (.object [("version".toList, .bool true)]) = .error (.mismatch (.bool true) .string) ∧
    Sections.ofValue .null = .error (.mismatch .null .sections) ∧
    decodeTextList (.array [.string [], .null, .bool true]) = .error (.mismatch .null .string) ∧
    decodeTextList .null = .error (.mismatch .null .sequence) := by
  obtain ⟨document, sections, noSections, list, noList, -⟩ := reported_exact
  have noSection : Sections.ofValue (.object []) = .error (.missing "Added".toList) := by
    apply (sections _ _).mpr
    have first : Shape.sections.members = [] ++ "Added".toList :: Section.all.tail.map Section.title := rfl
    exact .missing first (by simp [memberFault?, member?]) (by simp) rfl
  refine ⟨(document _ _).mpr ?_, (document _ _).mpr ?_, noSections _ (by simp) (by simp),
    (list _ _).mpr ⟨[.string []], .null, [.bool true], rfl, by simp, by simp, rfl⟩, noList _ (by simp)⟩
  · have asked : changelogName ∈ Shape.document.members := by decide
    exact .unread asked (fault?_eq_some_iff.mpr noSection) (by decide)
  · have asked : "version".toList ∈ Shape.document.members := by decide
    exact .unread asked rfl (by decide)

end Document

end ReleaseNotes
