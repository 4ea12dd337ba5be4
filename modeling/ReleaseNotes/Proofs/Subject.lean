import ReleaseNotes.Commit.Subject
import ReleaseNotes.Proofs.LetterCase

/-! Conventional subjects by their grammar, `kind(scope)!: title`. Space in front of the title may count to
the gap or to the title, which changes nothing about what is read. -/
namespace ReleaseNotes

open Text

namespace Kind

/-- The words of the kinds are in small ASCII letters and do without `k`. -/
theorem letters_of_word (kind : Kind) : ∀ c ∈ kind.word, 97 ≤ c.toNat ∧ c.toNat ≤ 122 ∧ c ≠ 'k' := by
  have all : kind.word.all (fun c => 97 ≤ c.toNat && c.toNat ≤ 122 && c != 'k') = true := by
    cases kind <;> decide
  intro c member
  have each := List.all_eq_true.mp all c member
  simp only [Bool.and_eq_true, decide_eq_true_eq, bne_iff_ne, and_assoc] at each
  exact each

theorem word_ne_nil (kind : Kind) : kind.word ≠ [] := by
  cases kind <;> decide

theorem solid_word (kind : Kind) : Solid kind.word := by
  refine ⟨kind.word_ne_nil, fun c member => ?_⟩
  obtain ⟨low, high, -⟩ := kind.letters_of_word c member
  simp [isSpace, spaceRanges, Ranges.has]
  omega

theorem spells_word (kind : Kind) : Spells kind.word kind.word := by
  have fixed : ∀ c ∈ kind.word, foldAscii c = c := by
    intro c member
    obtain ⟨low, -, -⟩ := kind.letters_of_word c member
    rw [← Char.toNat_inj, toNat_foldAscii, if_neg (by omega)]
  exact (List.map_congr_left fixed).trans (List.map_id _)

theorem dropFrom?_sound {fold : Char → Char} {text rest : Text} {kind : Kind}
    (dropped : dropFrom? fold text = some (kind, rest)) :
    ∃ front, text = front ++ rest ∧ front.map fold = kind.word := by
  obtain ⟨found, -, hit⟩ := List.exists_of_findSome?_eq_some dropped
  obtain ⟨tail, opened, same⟩ := Option.map_eq_some_iff.mp hit
  rw [Prod.mk.injEq] at same
  obtain ⟨rfl, rfl⟩ := same
  exact dropWord?_eq_some_iff.mp opened

/-- At most one kind's word can open a text, so the order of the search does not matter. -/
theorem dropFrom?_complete {fold : Char → Char} {front : Text} {kind : Kind}
    (folded : front.map fold = kind.word) (rest : Text) :
    dropFrom? fold (front ++ rest) = some (kind, rest) := by
  have opened := dropWord?_append folded rest
  cases found : dropFrom? fold (front ++ rest) with
  | none =>
    have missed := List.findSome?_eq_none_iff.mp found kind (mem_all kind)
    simp [opened] at missed
  | some pair =>
    obtain ⟨other, tail⟩ := pair
    obtain ⟨otherFront, same, otherFolded⟩ := dropFrom?_sound found
    have leads : kind.word <+: (front ++ rest).map fold := by
      rw [List.map_append, folded]
      exact List.prefix_append _ _
    have otherLeads : other.word <+: (front ++ rest).map fold := by
      rw [same, List.map_append, otherFolded]
      exact List.prefix_append _ _
    have one : other = kind := by
      rcases List.prefix_or_prefix_of_prefix leads otherLeads with shorter | longer
      · exact (eq_of_word_leads shorter).symm
      · exact eq_of_word_leads longer
    subst one
    have extent : otherFront.length = front.length := by
      rw [← List.length_map fold, otherFolded, ← folded, List.length_map]
    obtain ⟨-, rfl⟩ := List.append_inj same.symm extent
    rfl

end Kind

namespace Subject

def scopeText : Option Text → Text
  | none => []
  | some scope => '(' :: scope ++ [')']

def markText (breaking : Bool) : Text :=
  if breaking then ['!'] else []

/-- Something that can stand between the parentheses of a scope. -/
def IsScope (scope : Text) : Prop :=
  scope ≠ [] ∧ ')' ∉ scope

theorem splitScope?_sound {text scope rest : Text} (cut : splitScope? text = some (scope, rest)) :
    ∃ given : Option Text, (∀ s ∈ given, IsScope s) ∧ scope = given.getD [] ∧
      text = scopeText given ++ rest := by
  unfold splitScope? at cut
  split at cut
  case h_1 inner =>
    split at cut
    case h_1 c scope rest spanned =>
      obtain ⟨whole, closed, -⟩ := span_ne_eq_iff.mp spanned
      simp only [Option.some.injEq, Prod.mk.injEq] at cut
      obtain ⟨rfl, rfl⟩ := cut
      refine ⟨some (c :: scope), ?_, rfl, by simp [whole, scopeText]⟩
      rintro s ⟨⟩
      exact ⟨by simp, closed⟩
    case h_2 => contradiction
  case h_2 =>
    simp only [Option.some.injEq, Prod.mk.injEq] at cut
    obtain ⟨rfl, rfl⟩ := cut
    exact ⟨none, by simp, rfl, rfl⟩

theorem splitScope?_complete {given : Option Text} (valid : ∀ s ∈ given, IsScope s) {rest : Text}
    (after : rest.head? ≠ some '(') :
    splitScope? (scopeText given ++ rest) = some (given.getD [], rest) := by
  cases given with
  | none =>
    cases rest with
    | nil => rfl
    | cons c rest =>
      have plain : c ≠ '(' := by simpa using after
      simp [scopeText, splitScope?, plain]
  | some scope =>
    obtain ⟨filled, closed⟩ := valid scope rfl
    obtain ⟨c, tail, rfl⟩ := List.exists_cons_of_ne_nil filled
    have spanned : (c :: tail ++ ')' :: rest).span (· != ')') = (c :: tail, ')' :: rest) :=
      span_ne_eq_iff.mpr ⟨rfl, closed, .inr rfl⟩
    simp only [scopeText, List.cons_append, List.append_assoc, List.nil_append, splitScope?]
    rw [List.cons_append] at spanned
    rw [spanned]
    rfl

theorem splitMark_markText (breaking : Bool) (rest : Text) :
    splitMark (markText breaking ++ ':' :: rest) = (breaking, ':' :: rest) := by
  cases breaking <;> rfl

theorem markText_splitMark (text : Text) :
    text = markText (splitMark text).1 ++ (splitMark text).2 := by
  unfold splitMark
  split <;> rfl

theorem afterColon?_eq_some_iff {text rest : Text} :
    afterColon? text = some rest ↔ text = ':' :: rest := by
  unfold afterColon?
  split <;> simp_all [eq_comm]

theorem carriesTitle_sound {text : Text} (carries : carriesTitle text = true) :
    ∃ gap title, text = gap ++ title ∧ Gap gap ∧ title ≠ [] ∧ '\n' ∉ title := by
  unfold carriesTitle at carries
  split at carries
  case h_2 => contradiction
  case h_1 c d rest =>
    simp only [Bool.and_eq_true, Bool.not_eq_true', List.contains_eq_mem, decide_eq_false_iff_not,
      bne_iff_ne, ne_eq] at carries
    obtain ⟨⟨space, oneLine⟩, ended⟩ := carries
    obtain ⟨gap, cut, blank⟩ := exists_trimStart (d :: rest)
    by_cases given : trimStart (d :: rest) = []
    · -- All of it is space, of which the last character has to do for a title.
      rw [given, List.append_nil] at cut
      have filled : d :: rest ≠ [] := by simp
      refine ⟨c :: (d :: rest).dropLast, [(d :: rest).getLast filled], ?_, ?_, by simp, ?_⟩
      · rw [List.cons_append, List.dropLast_append_getLast]
      · refine gap_cons_iff.mpr ⟨space, fun e member => ?_⟩
        exact blank e (cut ▸ List.dropLast_subset _ member)
      · rw [List.mem_singleton]
        intro feed
        exact ended (by rw [List.getLast?_eq_getLast_of_ne_nil filled, feed])
    · exact ⟨c :: gap, trimStart (d :: rest), by rw [List.cons_append, ← cut],
        gap_cons_iff.mpr ⟨space, blank⟩, given, oneLine⟩

theorem carriesTitle_complete {gap title : Text} (space : Gap gap) (given : title ≠ [])
    (oneLine : '\n' ∉ title) : carriesTitle (gap ++ title) = true := by
  obtain ⟨c, more, rfl⟩ := List.exists_cons_of_ne_nil space.given
  obtain ⟨first, blank⟩ := gap_cons_iff.mp space
  obtain ⟨d, rest, shape⟩ := List.exists_cons_of_ne_nil (by simp [given] : more ++ title ≠ [])
  have oneLineTail : '\n' ∉ trimStart (d :: rest) := by
    rw [← shape, trimStart_append_of_blank blank]
    exact fun member => oneLine ((List.dropWhile_suffix isSpace).subset member)
  have ended : (d :: rest).getLast? ≠ some '\n' := by
    rw [← shape, List.getLast?_append_of_ne_nil more given]
    exact fun last => oneLine (List.mem_of_getLast? last)
  rw [List.cons_append, shape]
  simp [carriesTitle, first, oneLineTail, ended]

/-- A conventional subject in parts. -/
structure Parts where
  kind : Kind
  word : Text
  scope : Option Text
  breaking : Bool
  gap : Text
  title : Text
  spelled : Spells word kind.word
  enclosed : ∀ s ∈ scope, IsScope s
  spaced : Gap gap
  titled : title ≠ []
  oneLine : '\n' ∉ title

namespace Parts

def text (p : Parts) : Text :=
  p.word ++ (scopeText p.scope ++ (markText p.breaking ++ ':' :: (p.gap ++ p.title)))

def subject (p : Parts) : Subject where
  kind := p.kind
  scope := lowercase (p.scope.getD [])
  breaking := p.breaking
  title := trim (p.gap ++ p.title)

theorem splitScope?_behind_word (p : Parts) :
    splitScope? (scopeText p.scope ++ (markText p.breaking ++ ':' :: (p.gap ++ p.title))) =
      some (p.scope.getD [], markText p.breaking ++ ':' :: (p.gap ++ p.title)) := by
  apply splitScope?_complete p.enclosed
  cases p.breaking <;> simp [markText]

theorem parse?_text (p : Parts) : parse? p.text = some p.subject := by
  have opened := Kind.dropFrom?_complete p.spelled
    (scopeText p.scope ++ (markText p.breaking ++ ':' :: (p.gap ++ p.title)))
  have carries := carriesTitle_complete p.spaced p.titled p.oneLine
  unfold parse? text
  simp [opened, p.splitScope?_behind_word, splitMark_markText, afterColon?, carries, subject]

theorem trimmed_text (p : Parts) (titled : Trimmed p.title) : Trimmed p.text := by
  have word : Solid p.word := p.spelled.solid p.kind.solid_word
  refine ⟨by simp [text], word.startsSolid_append _, ?_⟩
  simp only [text, ← List.append_assoc, ← List.cons_append]
  exact titled.endsSolid_append _

theorem exists_of_parse? {text : Text} {subject : Subject} (read : parse? text = some subject) :
    ∃ p : Parts, p.text = text ∧ p.subject = subject := by
  simp only [parse?, Option.bind_eq_bind, Option.bind_eq_some_iff, Prod.exists,
    Option.ite_none_right_eq_some, Option.some.injEq] at read
  obtain ⟨kind, afterWord, opened, scope, afterScope, cut, rest, colon, carries, rfl⟩ := read
  obtain ⟨word, rfl, spelled⟩ := Kind.dropFrom?_sound opened
  obtain ⟨given, enclosed, rfl, rfl⟩ := splitScope?_sound cut
  obtain ⟨gap, title, rfl, spaced, titled, oneLine⟩ := carriesTitle_sound carries
  have marked := markText_splitMark afterScope
  rw [afterColon?_eq_some_iff.mp colon] at marked
  refine ⟨⟨kind, word, given, (splitMark afterScope).1, gap, title, spelled, enclosed, spaced, titled,
    oneLine⟩, ?_, rfl⟩
  exact congrArg (fun rest => word ++ (scopeText given ++ rest)) marked.symm

/-- A text is read as a subject exactly when it divides into parts, and whichever way it does. -/
theorem parse?_eq_some_iff {text : Text} {subject : Subject} :
    parse? text = some subject ↔ ∃ p : Parts, p.text = text ∧ p.subject = subject := by
  constructor
  · exact exists_of_parse?
  · rintro ⟨p, rfl, rfl⟩
    exact p.parse?_text

end Parts

end Subject

end ReleaseNotes
