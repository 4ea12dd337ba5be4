import ReleaseNotes.Text.Fold
import ReleaseNotes.Proofs.Trimmed

/-! Keywords in any choice of capitals. Folding ASCII letters neither makes nor hides space or marks, and
simple folding differs from it only at the two letters that gain a second spelling. -/
namespace ReleaseNotes.Text

/-- The text is the lowercase word in some choice of ASCII capitals. -/
def Spells (text word : Text) : Prop :=
  text.map foldAscii = word

instance (text word : Text) : Decidable (Spells text word) :=
  inferInstanceAs (Decidable (text.map foldAscii = word))

theorem toNat_foldAscii (c : Char) :
    (foldAscii c).toNat = if 65 ≤ c.toNat ∧ c.toNat ≤ 90 then c.toNat + 32 else c.toNat := by
  unfold foldAscii Char.toLower
  split <;> rename_i range <;> simp [UInt32.le_iff_toNat_le] at range
  · rw [if_pos range]
    simp
    omega
  · rw [if_neg (by omega)]

@[simp] theorem foldAscii_foldAscii (c : Char) : foldAscii (foldAscii c) = foldAscii c := by
  rw [← Char.toNat_inj, toNat_foldAscii, toNat_foldAscii]
  split <;> grind

theorem foldAscii_eq_mark_iff (mark c : Char)
    (plain : mark.toNat < 65 ∨ 122 < mark.toNat := by decide) : foldAscii c = mark ↔ c = mark := by
  rw [← Char.toNat_inj, ← Char.toNat_inj, toNat_foldAscii]
  split <;> omega

theorem foldAscii_mark (mark : Char) (plain : mark.toNat < 65 ∨ 122 < mark.toNat := by decide) :
    foldAscii mark = mark :=
  (foldAscii_eq_mark_iff mark mark plain).mpr rfl

theorem foldAscii_ne_mark {mark c : Char} (other : c ≠ mark)
    (plain : mark.toNat < 65 ∨ 122 < mark.toNat := by decide) : foldAscii c ≠ mark :=
  mt (foldAscii_eq_mark_iff mark c plain).mp other

theorem foldAscii_beq_mark (mark c : Char) (plain : mark.toNat < 65 ∨ 122 < mark.toNat := by decide) :
    (foldAscii c == mark) = (c == mark) := by
  rw [Bool.eq_iff_iff, beq_iff_eq, beq_iff_eq, foldAscii_eq_mark_iff mark c plain]

theorem foldAscii_bne_mark (mark c : Char) (plain : mark.toNat < 65 ∨ 122 < mark.toNat := by decide) :
    (foldAscii c != mark) = (c != mark) := by
  rw [bne, foldAscii_beq_mark mark c plain, bne]

@[simp] theorem isSpace_foldAscii (c : Char) : isSpace (foldAscii c) = isSpace c := by
  simp only [isSpace, toNat_foldAscii]
  split
  · simp [spaceRanges, Ranges.has]
    grind
  · rfl

@[simp] theorem foldSimple_foldAscii (c : Char) : foldSimple (foldAscii c) = foldSimple c := by
  by_cases longS : c = '\u017f'
  · subst longS
    decide
  · by_cases kelvin : c = '\u212a'
    · subst kelvin
      decide
    · rw [foldSimple_eq_foldAscii longS kelvin,
        foldSimple_eq_foldAscii (foldAscii_ne_mark longS) (foldAscii_ne_mark kelvin), foldAscii_foldAscii]

/-- Only `s` and `k` have a spelling beyond ASCII. -/
theorem foldSimple_eq_iff {letter : Char} (plain : letter ∉ ['s', 'k', '\u017f', '\u212a']) (c : Char) :
    foldSimple c = letter ↔ foldAscii c = letter := by
  by_cases longS : c = '\u017f'
  · subst longS
    rw [foldSimple_longS, foldAscii_mark '\u017f']
    grind
  · by_cases kelvin : c = '\u212a'
    · subst kelvin
      rw [foldSimple_kelvin, foldAscii_mark '\u212a']
      grind
    · rw [foldSimple_eq_foldAscii longS kelvin]

theorem foldSimple_eq_s_iff (c : Char) : foldSimple c = 's' ↔ c = 's' ∨ c = 'S' ∨ c = '\u017f' := by
  by_cases longS : c = '\u017f'
  · simp [longS]
  · by_cases kelvin : c = '\u212a'
    · subst kelvin
      decide
    · rw [foldSimple_eq_foldAscii longS kelvin, ← Char.toNat_inj, toNat_foldAscii, ← Char.toNat_inj,
        ← Char.toNat_inj]
      simp [longS]
      split <;> omega

theorem map_foldSimple_eq_iff {word : Text}
    (plain : ∀ letter ∈ word, letter ∉ ['s', 'k', '\u017f', '\u212a']) (text : Text) :
    text.map foldSimple = word ↔ Spells text word := by
  unfold Spells
  induction word generalizing text with
  | nil => simp
  | cons letter word ih =>
    cases text with
    | nil => simp
    | cons c text =>
      simp only [List.map_cons, List.cons.injEq]
      rw [foldSimple_eq_iff (plain letter (by simp)),
        ih (fun other member => plain other (by simp [member]))]

theorem dropWord?_append {fold : Char → Char} {word front : Text} (folded : front.map fold = word)
    (rest : Text) : dropWord? fold word (front ++ rest) = some rest :=
  dropWord?_eq_some_iff.mpr ⟨front, rfl, folded⟩

/-- A map that makes and hides no letter of the word is not seen when the word is dropped. -/
theorem dropWord?_map {fold change : Char → Char} {word : Text}
    (blind : ∀ letter ∈ word, ∀ c, fold (change c) = letter ↔ fold c = letter) (text : Text) :
    dropWord? fold word (text.map change) = (dropWord? fold word text).map (·.map change) := by
  induction word generalizing text with
  | nil => simp [dropWord?]
  | cons letter word ih =>
    cases text with
    | nil => rfl
    | cons c text =>
      have first := blind letter (by simp) c
      have tail := ih (fun other member => blind other (by simp [member])) text
      simp only [List.map_cons, dropWord?, first, tail]
      split <;> rfl

theorem Spells.solid {text word : Text} (spelled : Spells text word) (keyword : Solid word) :
    Solid text := by
  constructor
  · rintro rfl
    exact keyword.given spelled.symm
  · intro c member
    rw [← isSpace_foldAscii]
    apply keyword.solid
    rw [← spelled]
    exact List.mem_map_of_mem member

theorem Spells.ascii {text word : Text} (spelled : Spells text word)
    (plain : ∀ letter ∈ word, letter.toNat < 128) : ∀ c ∈ text, c.toNat < 128 := by
  intro c member
  have code := toNat_foldAscii c
  have letter : foldAscii c ∈ word := by
    rw [← spelled]
    exact List.mem_map_of_mem member
  have small := plain _ letter
  split at code <;> omega

end ReleaseNotes.Text
