import ReleaseNotes.Commit.Header
import ReleaseNotes.Proofs.Subject

/-! Titles of conventional subjects. The title is what stands behind the colon less the space around it, so
nothing is left of it when that is all space; of such space two characters do for a gap and a title. A
subject that does not end in space, as one in front of its credit, has a title. -/
namespace ReleaseNotes

open Text

namespace Subject

/-- What stands in front of the colon of a subject: a word, perhaps a scope, perhaps a mark. -/
def IsOpening (front : Text) : Prop :=
  ∃ (kind : Kind) (word : Text) (scope : Option Text) (breaking : Bool),
    front = word ++ (scopeText scope ++ markText breaking) ∧ Spells word kind.word ∧
      ∀ s ∈ scope, IsScope s

namespace Parts

theorem exists_opening (p : Parts) :
    ∃ front, p.text = front ++ ':' :: (p.gap ++ p.title) ∧ IsOpening front :=
  ⟨p.word ++ (scopeText p.scope ++ markText p.breaking), by simp [text],
    p.kind, p.word, p.scope, p.breaking, rfl, p.spelled, p.enclosed⟩

theorem title_eq_nil_iff (p : Parts) : p.subject.title = [] ↔ ∀ c ∈ p.title, isSpace c = true := by
  change trim (p.gap ++ p.title) = [] ↔ _
  rw [trim_eq_nil_iff, List.forall_mem_append]
  exact and_iff_right p.spaced.blank

theorem exists_gap_of_endsSolid {p : Parts} (ends : EndsSolid p.text) :
    ∃ gap, p.gap ++ p.title = gap ++ p.subject.title ∧ Gap gap ∧ Trimmed p.subject.title := by
  have endsTitle : EndsSolid p.title := by
    unfold text at ends
    simp only [← List.append_assoc, ← List.cons_append] at ends
    exact (endsSolid_append _ p.titled).mp ends
  obtain ⟨lead, cut, blank⟩ := exists_trimStart p.title
  have given : trimStart p.title ≠ [] := by
    intro nothing
    rw [nothing, List.append_nil] at cut
    have last := List.getLast?_eq_getLast_of_ne_nil p.titled
    have space : isSpace (p.title.getLast p.titled) = true := by
      rw [← cut] at blank
      exact blank _ (List.getLast_mem p.titled)
    simp [endsTitle _ last] at space
  have endsRest : EndsSolid (trimStart p.title) := by
    rw [cut] at endsTitle
    exact (endsSolid_append lead given).mp endsTitle
  have left : p.subject.title = trimStart p.title := by
    change trim (p.gap ++ p.title) = _
    rw [trim, trimStart_append_of_blank p.spaced.blank, trimEnd_of_endsSolid endsRest]
  rw [left]
  refine ⟨p.gap ++ lead, by rw [List.append_assoc, ← cut], ⟨by simp [p.spaced.given], ?_⟩, given,
    startsSolid_trimStart _, endsRest⟩
  exact List.forall_mem_append.mpr ⟨p.spaced.blank, blank⟩

end Parts

/-- Behind an opening, space is a gap and a title when there is enough of it and a line feed does not end it. -/
theorem exists_parts_of_blank {front space : Text} (opening : IsOpening front)
    (blank : ∀ c ∈ space, isSpace c = true) (several : 2 ≤ space.length)
    (ended : space.getLast? ≠ some '\n') :
    ∃ p : Parts, p.text = front ++ ':' :: space ∧ p.subject.title = [] := by
  obtain ⟨kind, word, scope, breaking, rfl, spelled, enclosed⟩ := opening
  have given : space ≠ [] := by
    rintro rfl
    simp at several
  have whole : space.dropLast ++ [space.getLast given] = space := List.dropLast_append_getLast given
  have gap : space.dropLast ≠ [] := by
    apply List.ne_nil_of_length_pos
    rw [List.length_dropLast]
    omega
  have last : isSpace (space.getLast given) = true := blank _ (List.getLast_mem given)
  have noFeed : '\n' ∉ [space.getLast given] := by
    rw [List.mem_singleton]
    intro feed
    exact ended (by rw [List.getLast?_eq_getLast_of_ne_nil given, ← feed])
  -- The last character goes to the title and leaves a gap in front of it.
  let p : Parts := {
    kind, word, scope, breaking, gap := space.dropLast, title := [space.getLast given], spelled, enclosed
    spaced := ⟨gap, fun c member => blank c (List.dropLast_subset _ member)⟩
    titled := by simp
    oneLine := noFeed }
  refine ⟨p, by simp [p, Parts.text, whole], p.title_eq_nil_iff.mpr ?_⟩
  rwa [List.forall_mem_singleton]

/-- A subject is read without a title exactly when nothing but space stands behind its colon, two characters
of it or more, of which the last is no line feed. One that does not end in space has a title, and no space
around it. -/
theorem title_exact (text : Text) :
    ((∃ subject, parse? text = some subject ∧ subject.title = []) ↔
      ∃ front space, text = front ++ ':' :: space ∧ IsOpening front ∧
        (∀ c ∈ space, isSpace c = true) ∧ 2 ≤ space.length ∧ space.getLast? ≠ some '\n') ∧
    ∀ subject, parse? text = some subject → EndsSolid text → Trimmed subject.title := by
  refine ⟨⟨?_, ?_⟩, ?_⟩
  · rintro ⟨subject, read, untitled⟩
    obtain ⟨p, rfl, rfl⟩ := Parts.exists_of_parse? read
    obtain ⟨front, whole, opening⟩ := p.exists_opening
    have blank := p.title_eq_nil_iff.mp untitled
    refine ⟨front, p.gap ++ p.title, whole, opening,
      List.forall_mem_append.mpr ⟨p.spaced.blank, blank⟩, ?_, ?_⟩
    · have gap := List.length_pos_iff.mpr p.spaced.given
      have title := List.length_pos_iff.mpr p.titled
      rw [List.length_append]
      omega
    · rw [List.getLast?_append_of_ne_nil _ p.titled]
      exact fun last => p.oneLine (List.mem_of_getLast? last)
  · rintro ⟨front, space, rfl, opening, blank, several, ended⟩
    obtain ⟨p, whole, untitled⟩ := exists_parts_of_blank opening blank several ended
    exact ⟨p.subject, whole ▸ p.parse?_text, untitled⟩
  · intro subject read ends
    obtain ⟨p, rfl, rfl⟩ := Parts.exists_of_parse? read
    obtain ⟨-, -, -, titled⟩ := Parts.exists_gap_of_endsSolid ends
    exact titled

/-- Space that ends in a tab, behind a scope that has a colon and space in it, and a title that has both. -/
theorem title_exact_tab :
    (∃ subject, parse? "Fix(a: ):\n\t".toList = some subject ∧ subject.title = []) ∧
    let subject : Subject := ⟨.feat, [], true, "b:  c".toList⟩
    parse? "feat!:\u00a0 b:  c".toList = some subject ∧ EndsSolid "feat!:\u00a0 b:  c".toList ∧
      Trimmed subject.title := by
  have opening : IsOpening "Fix(a: )".toList := by
    refine ⟨.fix, "Fix".toList, some "a: ".toList, false, by decide, by decide, ?_⟩
    rintro s ⟨⟩
    exact ⟨by decide, by decide⟩
  have space : Gap "\n\t".toList := by decide
  have read : parse? "feat!:\u00a0 b:  c".toList = some ⟨.feat, [], true, "b:  c".toList⟩ := by decide
  have ends : EndsSolid "feat!:\u00a0 b:  c".toList := by decide
  refine ⟨(title_exact _).1.mpr ?_, read, ends, (title_exact _).2 _ read ends⟩
  exact ⟨"Fix(a: )".toList, "\n\t".toList, by decide, opening, space.blank, by decide, by decide⟩

/-- Two spaces behind a colon are read as a subject without a title, though they make no header. -/
theorem parse?_untitled :
    parse? "feat:  ".toList = some ⟨.feat, [], false, []⟩ ∧ isHeader "feat:  ".toList = false := by
  decide

end Subject

end ReleaseNotes
