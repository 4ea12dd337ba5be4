import ReleaseNotes.Text.Basic

/-! White space is the property of that name: 25 code points, among them the no-break spaces and the
two separators, but not the zero-width space and not the four information separators. -/
namespace ReleaseNotes.Text

def spaceRanges : Ranges :=
  [(0x9, 0xD), (0x20, 0x20), (0x85, 0x85), (0xA0, 0xA0), (0x1680, 0x1680), (0x2000, 0x200A),
   (0x2028, 0x2029), (0x202F, 0x202F), (0x205F, 0x205F), (0x3000, 0x3000)]

def isSpace (c : Char) : Bool :=
  spaceRanges.has c.toNat

def isBlank (text : Text) : Bool :=
  text.all isSpace

def startsWithSpace : Text → Bool
  | [] => false
  | c :: _ => isSpace c

def trimStart (text : Text) : Text :=
  text.dropWhile isSpace

def trimEnd (text : Text) : Text :=
  (text.reverse.dropWhile isSpace).reverse

def trim (text : Text) : Text :=
  trimEnd (trimStart text)

/-- The last word of a text, and the text before it without the space that sets it off. The word is
empty when the text ends in space. -/
def splitLastWord (text : Text) : Text × Text :=
  let (word, before) := text.reverse.span (!isSpace ·)
  (trimEnd before.reverse, word.reverse)

example : spaceRanges.ascending = true ∧ spaceRanges.size = 25 := by decide

@[simp] theorem trimStart_nil : trimStart [] = [] := rfl

@[simp] theorem trimEnd_nil : trimEnd [] = [] := rfl

@[simp] theorem trim_nil : trim [] = [] := rfl

theorem trimStart_cons_of_space {c : Char} (text : Text) (space : isSpace c = true) :
    trimStart (c :: text) = trimStart text := by
  simp [trimStart, space]

theorem trimStart_cons_of_not_space {c : Char} (text : Text) (solid : isSpace c = false) :
    trimStart (c :: text) = c :: text := by
  simp [trimStart, solid]

end ReleaseNotes.Text
