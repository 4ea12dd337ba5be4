import ReleaseNotes.Log.Condition
import ReleaseNotes.Log.Level
import ReleaseNotes.Text.Slice

/-! Directives: `level`, `target`, `target=level`, and each of the last two with a span in front of the
equals sign. A directive is divided as its text reads without the space around it, but its parts are
then cut out of the text with that space, between the same bytes. -/
namespace ReleaseNotes

structure Directive where
  /-- The beginning of the origins meant; absent, all are. -/
  target : Option Text := none
  condition : Condition := .anything
  level : Level := .trace
  deriving DecidableEq, Repr

namespace Directive

/-- What keeps a text from being a directive. -/
inductive Fault where
  | malformed
  /-- A part begins or ends within a character. -/
  | split
  deriving DecidableEq, Repr

/-- The text without the space around it from some byte on. -/
structure Cursor where
  byte : Nat
  ahead : Text
  deriving DecidableEq, Repr

def part (source : Text) (start stop : Nat) : Except Fault Text :=
  (Text.slice? start stop source).elim (.error .split) .ok

/-- The part of the source up to the first of some delimiters, the delimiter, and the cursor behind
it. -/
def readUpTo (source : Text) (delimiters : List Char) (cursor : Cursor) :
    Except Fault (Text × Char × Cursor) :=
  let (passed, rest) := cursor.ahead.span (!delimiters.contains ·)
  let stop := cursor.byte + Text.size passed
  match rest with
  | [] => .error .malformed
  | delimiter :: ahead => do
    return (← part source cursor.byte stop, delimiter, { byte := stop + 1, ahead })

/-- The level from a byte to the end of the source, which may be left out. -/
def readLevel (source : Text) (start : Nat) : Except Fault Level := do
  match ← part source start (Text.size source) with
  | [] => return .trace
  | text => (Level.read? text).elim (.error .malformed) .ok

/-- The level behind a span, which may be left out together with its equals sign. -/
def readSpanLevel (source : Text) (cursor : Cursor) : Except Fault Level :=
  match cursor.ahead with
  | [] => .ok .trace
  | '=' :: _ => readLevel source (cursor.byte + 1)
  | _ => .error .malformed

/-- A field in braces and the bracket that closes its span, read behind the opening brace. -/
def readField (source : Text) (cursor : Cursor) : Except Fault (Condition × Cursor) := do
  let (field, _, cursor) ← readUpTo source ['\x7d'] cursor
  match Condition.ofField? field, cursor.ahead with
  | some condition, ']' :: ahead => return (condition, { byte := cursor.byte + 1, ahead })
  | _, _ => .error .malformed

/-- A span in brackets, read behind the opening one. No event is in a span that has a name. -/
def readSpan (source : Text) (cursor : Cursor) : Except Fault (Condition × Cursor) := do
  let (name, delimiter, cursor) ← readUpTo source [']', '\x7b'] cursor
  if delimiter == ']' then
    return (.impossible, cursor)
  else
    let (condition, cursor) ← readField source cursor
    return (if name == [] then condition else .impossible, cursor)

def begins (c : Char) : Bool :=
  "[-:_".toList.contains c || Text.isAlphanumeric c

/-- A word on its own is a level or else a target. -/
def ofWord (word : Text) : Directive :=
  match Level.read? word with
  | some level => { level }
  | none => { target := word }

def read (source : Text) : Except Fault Directive :=
  let text := Text.trim source
  if !text.head?.any begins then .error .malformed
  else if !text.any "=[".toList.contains then .ok (ofWord source)
  else do
    let (word, delimiter, cursor) ← readUpTo source ['=', '['] { byte := 0, ahead := text }
    if delimiter == '=' then
      return { target := word, level := ← readLevel source cursor.byte }
    else
      let (condition, cursor) ← readSpan source cursor
      let level ← readSpanLevel source cursor
      return { target := if word == [] then none else some word, condition, level }

def applies (directive : Directive) (origin : Text) : Bool :=
  directive.condition != .impossible &&
    match directive.target with
    | some target => target.isPrefixOf origin
    | none => true

/-- Directives are ordered by the length of their target, and then by whether they ask for a field. -/
def rank (directive : Directive) : Nat :=
  let length := match directive.target with
    | some target => target.length + 1
    | none => 0
  2 * length + if directive.condition == .message then 1 else 0

end Directive

end ReleaseNotes
