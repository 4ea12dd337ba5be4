import ReleaseNotes.Commit.Kind
import ReleaseNotes.Proofs.LetterCase

/-! Lower case where it meets ASCII. An ASCII character has the lower case of its own whatever stands around
it, so a keyword in front of a text comes out in small letters and what follows it does not matter. -/
namespace ReleaseNotes.Text

/-- The table of lower case says about ASCII what folding ASCII letters does. -/
theorem lowerCode_of_ascii {n : Nat} (ascii : n < 128) :
    lowerCode lowerRuns n = if 65 ≤ n ∧ n ≤ 90 then n + 32 else n := by
  have table : lowerRuns = (0x41, 0x5A, 1, 0x61) :: (0xC0, 0xD6, 1, 0xE0) :: lowerRuns.tail.tail := rfl
  have beforeNext : n < 0xC0 := by omega
  rw [table]
  simp only [lowerCode, if_pos beforeNext, Nat.mod_one, and_true]
  grind

theorem lowerChar_of_ascii {c : Char} (ascii : c.toNat < 128) : lowerChar c = foldAscii c := by
  rw [lowerChar, lowerCode_of_ascii ascii, ← toNat_foldAscii, Char.ofNat_toNat]

theorem lowerBetween_of_ascii (before : Text) {c : Char} (ascii : c.toNat < 128) (after : Text) :
    lowerBetween before c after = [foldAscii c] := by
  have notDotted : c ≠ '\u0130' := by
    rintro rfl
    simp at ascii
  have notSigma : c ≠ 'Σ' := by
    rintro rfl
    simp at ascii
  simp [lowerBetween, notDotted, notSigma, lowerChar_of_ascii ascii]

theorem lowercaseAfter_append (before : Text) {front : Text} (ascii : ∀ c ∈ front, c.toNat < 128)
    (rest : Text) :
    lowercaseAfter before (front ++ rest) =
      front.map foldAscii ++ lowercaseAfter (front.reverse ++ before) rest := by
  induction front generalizing before with
  | nil => rfl
  | cons c front ih =>
    have tail := ih (c :: before) fun d member => ascii d (List.mem_cons_of_mem c member)
    rw [List.cons_append, lowercaseAfter, lowerBetween_of_ascii before (ascii c (by simp)), tail]
    simp

/-- A keyword in front of a text stays in front, in small letters. -/
theorem exists_lowercase_append {front : Text} (ascii : ∀ c ∈ front, c.toNat < 128) (rest : Text) :
    ∃ before, lowercase (front ++ rest) = front.map foldAscii ++ lowercaseAfter before rest :=
  ⟨_, lowercaseAfter_append [] ascii rest⟩

end ReleaseNotes.Text
