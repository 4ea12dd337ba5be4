import ReleaseNotes.Proofs.Header

/-! The grammar of conventional subjects, `kind(scope)!: title`, as it is read. A subject is taken apart
exactly when it divides into parts, and though a text may divide in several ways, they all say the
same: only the space in front of the title may count to the gap or to the title. -/
namespace ReleaseNotes

open Text

namespace Subject

theorem scopeText_injective : Function.Injective scopeText := by
  intro first second same
  cases first with
  | none => cases second <;> simp_all [scopeText]
  | some scope => cases second <;> simp_all [scopeText]

namespace Parts

variable {p q : Parts}

theorem word_unique (same : p.text = q.text) :
    p.kind = q.kind ∧ p.word = q.word ∧
      scopeText p.scope ++ (markText p.breaking ++ ':' :: (p.gap ++ p.title)) =
        scopeText q.scope ++ (markText q.breaking ++ ':' :: (q.gap ++ q.title)) := by
  have opened := Kind.dropFrom?_complete p.spelled
    (scopeText p.scope ++ (markText p.breaking ++ ':' :: (p.gap ++ p.title)))
  change Kind.dropFrom? foldAscii p.text = _ at opened
  rw [same, text, Kind.dropFrom?_complete q.spelled, Option.some.injEq, Prod.mk.injEq] at opened
  obtain ⟨kind, rest⟩ := opened
  refine ⟨kind.symm, ?_, rest.symm⟩
  unfold text at same
  rw [← rest] at same
  exact List.append_cancel_right same

/-- Two ways to divide a text differ at most in where the gap ends. -/
theorem divided_alike (same : p.text = q.text) :
    p.kind = q.kind ∧ p.word = q.word ∧ p.scope = q.scope ∧ p.breaking = q.breaking ∧
      p.gap ++ p.title = q.gap ++ q.title := by
  obtain ⟨kind, word, behind⟩ := word_unique same
  have cut := p.splitScope?_behind_word
  rw [behind, q.splitScope?_behind_word, Option.some.injEq, Prod.mk.injEq] at cut
  obtain ⟨-, marked⟩ := cut
  rw [marked] at behind
  have scope : p.scope = q.scope := scopeText_injective (List.append_cancel_right behind)
  have split := splitMark_markText p.breaking (p.gap ++ p.title)
  rw [← marked, splitMark_markText, Prod.mk.injEq, List.cons.injEq] at split
  obtain ⟨breaking, -, title⟩ := split
  exact ⟨kind, word, scope, breaking.symm, title.symm⟩

end Parts

theorem parse?_of_opensWithLongS {kind : Kind} {text : Text} (opens : kind.OpensWithLongS text) :
    parse? text = none := by
  obtain ⟨word, rest, whole, folded, longS⟩ := opens
  by_contra found
  obtain ⟨subject, read⟩ := Option.ne_none_iff_exists'.mp found
  obtain ⟨p, divided, -⟩ := Parts.exists_of_parse? read
  obtain ⟨pFolded, plain⟩ := (p.kind.spells_word_iff p.word).mp p.spelled
  have dropped := Kind.dropFrom?_complete folded rest
  rw [← whole, ← divided, Parts.text, Kind.dropFrom?_complete pFolded, Option.some.injEq,
    Prod.mk.injEq] at dropped
  have words : p.word = word := by
    rw [whole, Parts.text, dropped.2] at divided
    exact List.append_cancel_right divided
  exact plain (words ▸ longS)

/-- A text is read as a subject exactly when it divides into a kind in any capitals, perhaps a scope in
parentheses, perhaps a mark, a colon, a gap and a title on one line. However it divides, what is read is
this kind, the scope in small letters, the mark and what stands behind the colon without the space
around it, and two divisions differ at most in where the gap ends. A long s spells no kind. -/
theorem parse?_exact (text : Text) :
    ((parse? text).isSome = true ↔ ∃ p : Parts, p.text = text) ∧
    (∀ p : Parts, p.text = text → parse? text = some
      { kind := p.kind, scope := lowercase (p.scope.getD []), breaking := p.breaking,
        title := trim (p.gap ++ p.title) }) ∧
    (∀ p q : Parts, p.text = text → q.text = text →
      p.kind = q.kind ∧ p.word = q.word ∧ p.scope = q.scope ∧ p.breaking = q.breaking ∧
        p.gap ++ p.title = q.gap ++ q.title) ∧
    ∀ kind : Kind, kind.OpensWithLongS text → parse? text = none := by
  refine ⟨?_, ?_, ?_, fun kind opens => parse?_of_opensWithLongS opens⟩
  · rw [Option.isSome_iff_exists]
    constructor
    · rintro ⟨subject, read⟩
      obtain ⟨p, divided, -⟩ := Parts.exists_of_parse? read
      exact ⟨p, divided⟩
    · rintro ⟨p, rfl⟩
      exact ⟨p.subject, p.parse?_text⟩
  · rintro p rfl
    exact p.parse?_text
  · intro p q divided other
    exact Parts.divided_alike (divided.trans other.symm)

/-- A test with a line break in its scope and nothing but space for its title. -/
def Parts.blankTest (gap title : Text) (spaced : Gap gap) (titled : title ≠ [])
    (oneLine : '\n' ∉ title) : Parts where
  kind := .test
  word := "TeSt".toList
  scope := some "A(\u0130\n".toList
  breaking := true
  gap := gap
  title := title
  spelled := by decide
  enclosed := by
    rintro s ⟨⟩
    exact ⟨by decide, by decide⟩
  spaced := spaced
  titled := titled
  oneLine := oneLine

/-- Of three spaces, the first of them a line feed, two may be the gap or only one, and no title is left
of either; with a long s in its word the text is none. -/
theorem parse?_exact_blankTest :
    let text := "TeSt(A(\u0130\n)!:\n  ".toList
    let short := Parts.blankTest "\n".toList "  ".toList (by decide) (by decide) (by decide)
    let long := Parts.blankTest "\n ".toList " ".toList (by decide) (by decide) (by decide)
    (short.text = text ∧ long.text = text ∧ parse? text = some ⟨.test, "a(i\u0307\n".toList, true, []⟩ ∧
      short.gap ++ short.title = long.gap ++ long.title) ∧
    Kind.test.OpensWithLongS "te\u017ft: x".toList ∧ parse? "te\u017ft: x".toList = none := by
  intro text short long
  have divided : short.text = text := by decide
  have other : long.text = text := by decide
  have longS : Kind.test.OpensWithLongS "te\u017ft: x".toList :=
    ⟨"te\u017ft".toList, ": x".toList, by decide, by decide, by decide⟩
  obtain ⟨-, read, alike, -⟩ := parse?_exact text
  refine ⟨⟨divided, other, ?_, (alike short long divided other).2.2.2.2⟩, longS,
    (parse?_exact _).2.2.2 .test longS⟩
  rw [read long other]
  decide +kernel

end Subject

end ReleaseNotes
