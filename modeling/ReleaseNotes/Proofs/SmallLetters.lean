import ReleaseNotes.Text.Line
import ReleaseNotes.Proofs.Header
import ReleaseNotes.Proofs.Lowercased

/-! Texts with small letters for their ASCII capitals. No class of characters that a text is cut by tells a
capital from its small letter, so what is cut off a text in small letters is what is cut off the text,
in small letters; and in lower case the two are the same. -/
namespace ReleaseNotes.Text

/-- The text with its ASCII letters small. -/
def small (text : Text) : Text :=
  text.map foldAscii

@[simp] theorem small_nil : small [] = [] := rfl

@[simp] theorem small_cons (c : Char) (text : Text) : small (c :: text) = foldAscii c :: small text := rfl

/-- A class that has none of the letters, or all of them, and whatever else. -/
theorem eq_foldAscii_of_letters {p : Char → Bool} (value : Bool)
    (letters : ∀ c : Char, (65 ≤ c.toNat ∧ c.toNat ≤ 90) ∨ (97 ≤ c.toNat ∧ c.toNat ≤ 122) → p c = value)
    (c : Char) : p (foldAscii c) = p c := by
  have code := toNat_foldAscii c
  by_cases capital : 65 ≤ c.toNat ∧ c.toNat ≤ 90
  · rw [if_pos capital] at code
    rw [letters c (.inl capital), letters (foldAscii c) (by omega)]
  · rw [if_neg capital, Char.toNat_inj] at code
    rw [code]

@[simp] theorem isDigit_foldAscii (c : Char) : isDigit (foldAscii c) = isDigit c :=
  eq_foldAscii_of_letters false (fun d letter => not_isDigit_of_letter (c := d) (by omega)) c

@[simp] theorem isLineBreak_foldAscii (c : Char) : isLineBreak (foldAscii c) = isLineBreak c := by
  refine eq_foldAscii_of_letters false (fun d letter => ?_) c
  by_contra broken
  simp only [isLineBreak, lineBreaks, List.contains_eq_mem, Bool.not_eq_false, decide_eq_true_eq,
    List.mem_cons, List.not_mem_nil, or_false] at broken
  rcases broken with rfl | rfl | rfl | rfl | rfl | rfl | rfl | rfl | rfl | rfl
  all_goals simp at letter

@[simp] theorem isCased_foldAscii (c : Char) : isCased (foldAscii c) = isCased c := by
  have table : casedRanges = (0x41, 0x5A) :: (0x61, 0x7A) :: casedRanges.tail.tail := rfl
  refine eq_foldAscii_of_letters true (fun d letter => ?_) c
  rw [isCased, table]
  simp [Ranges.has]
  omega

@[simp] theorem isCaseIgnorable_foldAscii (c : Char) : isCaseIgnorable (foldAscii c) = isCaseIgnorable c := by
  have table : caseIgnorableRanges = (0x27, 0x27) :: (0x2E, 0x2E) :: (0x3A, 0x3A) :: (0x5E, 0x5E) ::
      (0x60, 0x60) :: (0xA8, 0xA8) :: caseIgnorableRanges.tail.tail.tail.tail.tail.tail := rfl
  refine eq_foldAscii_of_letters false (fun d letter => ?_) c
  rw [isCaseIgnorable, table]
  simp [Ranges.has]
  omega

theorem map_foldAscii_small (text : Text) : (small text).map foldAscii = text.map foldAscii := by
  simp [small, Function.comp_def]

theorem bne_nil_small (text : Text) : (small text != []) = (text != []) := by
  cases text <;> rfl

theorem contains_small (mark : Char) (text : Text)
    (plain : mark.toNat < 65 ∨ 122 < mark.toNat := by decide) :
    (small text).contains mark = text.contains mark := by
  rw [Bool.eq_iff_iff, List.contains_iff_mem, List.contains_iff_mem, small, List.mem_map]
  simp [foldAscii_eq_mark_iff mark _ plain]

theorem endsIn_small (mark : Char) (text : Text)
    (plain : mark.toNat < 65 ∨ 122 < mark.toNat := by decide) :
    ((small text).getLast? != some mark) = (text.getLast? != some mark) := by
  rw [small, List.getLast?_map]
  cases text.getLast? with
  | none => rfl
  | some c => simp [bne, foldAscii_beq_mark mark c plain]

theorem span_small {p : Char → Bool} (blind : ∀ c, p (foldAscii c) = p c) (text : Text) :
    (small text).span p = (small (text.span p).1, small (text.span p).2) := by
  have same : p ∘ foldAscii = p := funext blind
  simp only [small, List.span_eq_takeWhile_dropWhile, List.takeWhile_map, List.dropWhile_map, same]

theorem trimStart_small (text : Text) : trimStart (small text) = small (trimStart text) := by
  have same : isSpace ∘ foldAscii = isSpace := funext isSpace_foldAscii
  simp only [trimStart, small, List.dropWhile_map, same]

theorem trimEnd_small (text : Text) : trimEnd (small text) = small (trimEnd text) := by
  have reversed := trimStart_small text.reverse
  simp only [trimStart, small] at reversed
  simp only [trimEnd, small, ← List.map_reverse, reversed]

theorem trim_small (text : Text) : trim (small text) = small (trim text) := by
  rw [trim, trimStart_small, trimEnd_small, trim]

theorem isBlank_small (text : Text) : isBlank (small text) = isBlank text := by
  simp [isBlank, small, Function.comp_def]

theorem startsWithSpace_small (text : Text) : startsWithSpace (small text) = startsWithSpace text := by
  cases text <;> simp [startsWithSpace]

theorem splitLastWord_small (text : Text) :
    splitLastWord (small text) = (small (splitLastWord text).1, small (splitLastWord text).2) := by
  have reversed : (small text).reverse = small text.reverse := List.map_reverse.symm
  have cut := span_small (p := (!isSpace ·)) (by simp) text.reverse
  simp only [splitLastWord, reversed, cut]
  rw [small, small, ← List.map_reverse, ← List.map_reverse]
  exact congrArg (·, _) (trimEnd_small _)

/-- A word whose letters are met in either case is dropped from small letters as from others. -/
theorem dropWord?_small {fold : Char → Char} {word : Text}
    (blind : ∀ letter ∈ word, ∀ c, fold (foldAscii c) = letter ↔ fold c = letter) (text : Text) :
    dropWord? fold word (small text) = (dropWord? fold word text).map small :=
  dropWord?_map blind text

theorem extendFirst_small (c : Char) (lines : List Text) :
    extendFirst (foldAscii c) (lines.map small) = (extendFirst c lines).map small := by
  cases lines <;> rfl

theorem linesAfter_small (afterReturn : Bool) (text : Text) :
    linesAfter afterReturn (small text) = (linesAfter afterReturn text).map small := by
  induction text generalizing afterReturn with
  | nil => rfl
  | cons c rest ih =>
    have feed := foldAscii_beq_mark '\n' c
    have ret := foldAscii_beq_mark '\r' c
    simp only [small_cons, linesAfter, feed, ret, isLineBreak_foldAscii, ih, extendFirst_small]
    split
    · rfl
    · split <;> rfl

theorem lines_small (text : Text) : lines (small text) = (lines text).map small :=
  linesAfter_small false text

theorem meetsCased_small (text : Text) : meetsCased (small text) = meetsCased text := by
  have same : isCaseIgnorable ∘ foldAscii = isCaseIgnorable := funext isCaseIgnorable_foldAscii
  simp only [meetsCased, small, List.dropWhile_map, same]
  cases text.dropWhile isCaseIgnorable <;> simp

/-- A letter has one lower case whatever its case, and to its neighbours it is cased either way. -/
theorem lowerBetween_small (before : Text) (c : Char) (after : Text) :
    lowerBetween (small before) (foldAscii c) (small after) = lowerBetween before c after := by
  by_cases ascii : c.toNat < 128
  · have asciiToo : (foldAscii c).toNat < 128 := by
      rw [toNat_foldAscii]
      split <;> omega
    rw [lowerBetween_of_ascii _ ascii, lowerBetween_of_ascii _ asciiToo, foldAscii_foldAscii]
  · -- Beyond ASCII the character stays, and a sigma finds its neighbours cased as before.
    have itself : foldAscii c = c := by
      rw [← Char.toNat_inj, toNat_foldAscii, if_neg (by omega)]
    simp only [itself, lowerBetween, meetsCased_small]

theorem lowercaseAfter_small (before text : Text) :
    lowercaseAfter (small before) (small text) = lowercaseAfter before text := by
  induction text generalizing before with
  | nil => rfl
  | cons c rest ih =>
    have tail := ih (c :: before)
    rw [small_cons] at tail
    rw [small_cons, lowercaseAfter, lowercaseAfter, lowerBetween_small, tail]

theorem lowercase_small (text : Text) : lowercase (small text) = lowercase text :=
  lowercaseAfter_small [] text

end ReleaseNotes.Text
