import ReleaseNotes.Commit.Subject

/-! The loose test for a commit header. It asks less than taking the subject apart: surrounding space
does not matter, a long s passes for an s, any later closing parenthesis may end the scope, and
whatever follows the first word of the title is ignored. -/
namespace ReleaseNotes

namespace Header

/-- An optional breaking mark, a colon, space, and something after the space. -/
def opensTitle (text : Text) : Bool :=
  match Subject.afterColon? (Subject.splitMark text).2 with
  | some rest => Text.startsWithSpace rest && !Text.isBlank rest
  | none => false

/-- A closing parenthesis on this line with a title behind it. -/
def closesScope : Text → Bool
  | [] => false
  | c :: rest => (c == ')' && opensTitle rest) || (c != '\n' && closesScope rest)

/-- A scope of at least one character and a title behind it. -/
def opensScope : Text → Bool
  | '(' :: c :: rest => c != '\n' && closesScope rest
  | _ => false

end Header

/-- Whether a line, less the space around it, starts like a commit header. -/
def isHeader (line : Text) : Bool :=
  match Kind.dropFrom? Text.foldSimple (Text.trim line) with
  | some (_, rest) => Header.opensTitle rest || Header.opensScope rest
  | none => false

end ReleaseNotes
