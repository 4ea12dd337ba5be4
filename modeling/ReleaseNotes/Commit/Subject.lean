import ReleaseNotes.Commit.Kind
import ReleaseNotes.Text.Fold
import ReleaseNotes.Text.Space

/-! A conventional subject, `kind(scope)!: title`, taken apart. The text is read as it stands: no
space is allowed in front, the scope ends at the first closing parenthesis and may hold line breaks,
and the title may not. -/
namespace ReleaseNotes

structure Subject where
  kind : Kind
  /-- Lowercased; empty when the subject has no scope. -/
  scope : Text
  breaking : Bool
  title : Text
  deriving DecidableEq, Repr

namespace Subject

/-- A leading scope in parentheses, empty if there is none, and the rest. A scope that is opened has
to hold something and to be closed. -/
def splitScope? : Text → Option (Text × Text)
  | '(' :: text =>
    match text.span (· != ')') with
    | (c :: scope, ')' :: rest) => some (c :: scope, rest)
    | _ => none
  | text => some ([], text)

def splitMark : Text → Bool × Text
  | '!' :: rest => (true, rest)
  | text => (false, text)

def afterColon? : Text → Option Text
  | ':' :: rest => some rest
  | _ => none

/-- Whether a text is a run of space and then at least one character, with no line feed in what
follows the run. The run may give up its last characters, so a text of nothing but space also
qualifies when it is long enough and does not end in a line feed. -/
def carriesTitle : Text → Bool
  | c :: d :: rest =>
    Text.isSpace c && !(Text.trimStart (d :: rest)).contains '\n' &&
      (d :: rest).getLast? != some '\n'
  | _ => false

def parse? (text : Text) : Option Subject := do
  let (kind, text) ← Kind.dropFrom? Text.foldAscii text
  let (scope, text) ← splitScope? text
  let (breaking, text) := splitMark text
  let text ← afterColon? text
  if carriesTitle text then
    some { kind, scope := Text.lowercase scope, breaking, title := Text.trim text }
  else none

end Subject

end ReleaseNotes
