import ReleaseNotes.Text.Basic

/-! A text is cut into lines at ten break characters; a carriage return and the line feed after it are
one break. A break at the very end closes the last line and opens no further one. -/
namespace ReleaseNotes.Text

def lineBreaks : List Char :=
  ['\n', '\r', '\x0b', '\x0c', '\x1c', '\x1d', '\x1e', '\u0085', '\u2028', '\u2029']

def isLineBreak (c : Char) : Bool :=
  lineBreaks.contains c

def extendFirst (c : Char) : List Text → List Text
  | [] => [[c]]
  | line :: rest => (c :: line) :: rest

/-- The lines of a text that may stand behind a carriage return. A line feed there belongs to the break
already made. -/
def linesAfter (afterReturn : Bool) : Text → List Text
  | [] => []
  | c :: rest =>
    if afterReturn && c == '\n' then linesAfter false rest
    else if isLineBreak c then [] :: linesAfter (c == '\r') rest
    else extendFirst c (linesAfter false rest)

/-- The lines without the breaks that ended them. -/
def lines (text : Text) : List Text :=
  linesAfter false text

@[simp] theorem linesAfter_nil (afterReturn : Bool) : linesAfter afterReturn [] = [] := rfl

@[simp] theorem lines_nil : lines [] = [] := rfl

/-- Only a line feed sees what stands in front of it. -/
theorem linesAfter_cons_of_ne {c : Char} (afterReturn : Bool) (rest : Text) (ordinary : c ≠ '\n') :
    linesAfter afterReturn (c :: rest) = linesAfter false (c :: rest) := by
  simp [linesAfter, ordinary]

theorem linesAfter_cons_of_not_break {c : Char} (afterReturn : Bool) (rest : Text)
    (inside : isLineBreak c = false) :
    linesAfter afterReturn (c :: rest) = extendFirst c (linesAfter false rest) := by
  have ordinary : c ≠ '\n' := by
    rintro rfl
    simp [isLineBreak, lineBreaks] at inside
  simp [linesAfter, inside, ordinary]

theorem lines_cons_of_break {c : Char} (rest : Text) (broken : isLineBreak c = true) :
    lines (c :: rest) = [] :: linesAfter (c == '\r') rest := by
  simp [lines, linesAfter, broken]

theorem lines_cr_lf (rest : Text) : lines ('\r' :: '\n' :: rest) = [] :: lines rest := by
  simp [lines, linesAfter, isLineBreak, lineBreaks]

example : lines "a\r\r\nb\n".toList = ["a".toList, [], "b".toList] := by decide

end ReleaseNotes.Text
