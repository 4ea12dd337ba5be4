import ReleaseNotes.Commit.Header
import ReleaseNotes.Text.Digit
import ReleaseNotes.Text.Line

/-! Candidate lines of a release body: those that start like a commit header once the space around
them and their list markers are gone. Headings and blank lines are passed over. -/
namespace ReleaseNotes

namespace Line

def isHeading (line : Text) : Bool :=
  (Text.trimStart line).head? == some '#'

/-- What follows a leading bullet and its space. -/
def afterBullet? : Text → Option Text
  | c :: rest =>
    if (c == '-' || c == '*') && Text.startsWithSpace rest then some (Text.trimStart rest) else none
  | [] => none

/-- What follows a leading decimal number, its dot and its space. -/
def afterNumber? (text : Text) : Option Text :=
  match text.span Text.isDigit with
  | (_ :: _, '.' :: rest) => if Text.startsWithSpace rest then some (Text.trimStart rest) else none
  | _ => none

/-- Whether a bullet or a number stands in front of something, after any space. -/
def isListItem (line : Text) : Bool :=
  let text := Text.trimStart line
  (afterBullet? text).any (· != []) || (afterNumber? text).any (· != [])

/-- The line without the space around it, one bullet and then one number. -/
def withoutMarkers (line : Text) : Text :=
  let text := Text.trim line
  let text := (afterBullet? text).getD text
  Text.trim ((afterNumber? text).getD text)

def cleaned (line : Text) : Text :=
  if isListItem line then withoutMarkers line else Text.trim line

def candidate? (line : Text) : Option Text :=
  if Text.isBlank line || isHeading line then none
  else if isHeader (cleaned line) then some (cleaned line)
  else none

end Line

/-- The candidate lines of a body, in order. -/
def candidates (body : Text) : List Text :=
  (Text.lines body).filterMap Line.candidate?

@[simp] theorem candidates_nil : candidates [] = [] := rfl

end ReleaseNotes
