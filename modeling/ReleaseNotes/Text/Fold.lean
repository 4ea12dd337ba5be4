import ReleaseNotes.Text.Basic

/-! Letter case where only the ASCII letters of a keyword matter. -/
namespace ReleaseNotes.Text

/-- Folds ASCII letters to lower case and leaves every other character alone. -/
def foldAscii (c : Char) : Char :=
  c.toLower

/-- Simple case folding as an ASCII keyword sees it: besides the capitals, the long s folds to `s`
and the kelvin sign to `k`. No other character folds to an ASCII letter. -/
def foldSimple (c : Char) : Char :=
  if c = '\u017f' then 's' else if c = '\u212a' then 'k' else c.toLower

@[simp] theorem foldSimple_longS : foldSimple '\u017f' = 's' := rfl

@[simp] theorem foldSimple_kelvin : foldSimple '\u212a' = 'k' := rfl

theorem foldSimple_eq_foldAscii {c : Char} (notLongS : c ≠ '\u017f') (notKelvin : c ≠ '\u212a') :
    foldSimple c = foldAscii c := by
  simp [foldSimple, foldAscii, notLongS, notKelvin]

end ReleaseNotes.Text
