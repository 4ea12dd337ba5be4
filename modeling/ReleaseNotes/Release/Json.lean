import ReleaseNotes.Json.Layout
import ReleaseNotes.Release.Basic
import ReleaseNotes.Text.Quoted

/-! Documents as JSON: the value of a document, its text, and the way back from a value. Reading back
ignores members it does not know. Of several faults it reports one, by a fixed order: members that are
there come before members that are missing, the former in the order of their names, the latter in the
order they are written. -/
namespace ReleaseNotes

open Json (Value)

def textList (texts : List Text) : Value :=
  .array (texts.map .string)

def Sections.toValue (sections : Sections) : Value :=
  .object (sections.toList.map fun (s, entries) => (s.title, textList entries))

namespace Document

def toValue (document : Document) : Value :=
  .object
    [("version".toList, .string document.version),
     ("tag".toList, .string document.tag),
     ("date".toList, .string document.date),
     ("source_repo".toList, .string document.sourceRepo),
     ("keep_a_changelog".toList, document.changelog.toValue)]

/-- How a document is written: on one line without a line feed at its end, or indented with one. -/
inductive Style where
  | compact
  | pretty
  deriving DecidableEq, Repr

def render (style : Style) (document : Document) : Text :=
  match style with
  | .compact => Json.write .spaced 0 document.toValue
  | .pretty => Json.write .indented 0 document.toValue ++ ['\n']

end Document

/-- What is expected at a place of a document. -/
inductive Shape where
  | string
  | sequence
  | sections
  | document
  deriving DecidableEq, Repr

namespace Shape

def name : Shape → Text
  | .string => "a string".toList
  | .sequence => "a sequence".toList
  | .sections => "struct ChangelogSections".toList
  | .document => "struct Payload".toList

/-- The names of the members, for a shape that has members. -/
def members : Shape → List Text
  | .document =>
    ["version".toList, "tag".toList, "date".toList, "source_repo".toList, "keep_a_changelog".toList]
  | .sections => Section.all.map Section.title
  | _ => []

end Shape

/-- Why a value is no document. -/
inductive DecodeError where
  /-- A member is missing. -/
  | missing (name : Text)
  /-- A value is not of the shape its place asks for. -/
  | mismatch (found : Value) (expected : Shape)
  /-- An array that stands for an object ends before its members do. -/
  | tooShort (length : Nat) (expected : Shape)
  /-- An array that stands for an object goes on after its members. -/
  | tooLong (length : Nat)

namespace DecodeError

/-- Whether a number is written without a fraction and without an exponent. -/
def isWhole (spelling : Text) : Bool :=
  spelling.all fun c => c != '.' && c != 'e' && c != 'E'

/-- A value as an error names it: a scalar with its text, a container by its kind. -/
def describe : Value → Text
  | .null => "null".toList
  | .bool true => "boolean `true`".toList
  | .bool false => "boolean `false`".toList
  | .number spelling =>
    (if isWhole spelling then "integer `".toList else "floating point `".toList) ++ spelling ++
      "`".toList
  | .string text => "string ".toList ++ Text.quoted text
  | .array _ => "sequence".toList
  | .object _ => "map".toList

def message : DecodeError → Text
  | .missing name => "missing field `".toList ++ name ++ "`".toList
  | .mismatch found expected =>
    "invalid type: ".toList ++ describe found ++ ", expected ".toList ++ expected.name
  | .tooShort length expected =>
    "invalid length ".toList ++ Text.ofNat length ++ ", expected ".toList ++ expected.name ++
      " with ".toList ++ Text.ofNat expected.members.length ++ " elements".toList
  | .tooLong length =>
    "invalid length ".toList ++ Text.ofNat length ++ ", expected fewer elements in array".toList

end DecodeError

abbrev Decoded := Except DecodeError

def decodeText : Value → Decoded Text
  | .string text => .ok text
  | other => .error (.mismatch other .string)

def decodeTextList : Value → Decoded (List Text)
  | .array items => items.mapM decodeText
  | other => .error (.mismatch other .sequence)

namespace Decoded

def optional (decode : Value → Decoded α) (name : Text) (members : List (Text × Value)) :
    Decoded (Option α) :=
  match Json.member? name members with
  | some value => (decode value).map some
  | none => .ok none

def required (name : Text) : Option α → Decoded α
  | some value => .ok value
  | none => .error (.missing name)

def positional (decode : Value → Decoded α) (expected : Shape) (items : List Value) (n : Nat) :
    Decoded α :=
  match items[n]? with
  | some value => decode value
  | none => .error (.tooShort n expected)

/-- Refuses an array with more items than the object has members. -/
def noMoreThan (expected : Shape) (items : List Value) : Decoded Unit :=
  if expected.members.length < items.length then .error (.tooLong items.length) else .ok ()

end Decoded

open Decoded in
def Sections.ofValue : Value → Decoded Sections
  | .object members => do
    let added ← optional decodeTextList Section.added.title members
    let changed ← optional decodeTextList Section.changed.title members
    let deprecated ← optional decodeTextList Section.deprecated.title members
    let fixed ← optional decodeTextList Section.fixed.title members
    let other ← optional decodeTextList Section.other.title members
    let removed ← optional decodeTextList Section.removed.title members
    let security ← optional decodeTextList Section.security.title members
    return {
      added := ← required Section.added.title added
      changed := ← required Section.changed.title changed
      deprecated := ← required Section.deprecated.title deprecated
      removed := ← required Section.removed.title removed
      fixed := ← required Section.fixed.title fixed
      security := ← required Section.security.title security
      other := ← required Section.other.title other }
  | .array items => do
    let sections : Sections := {
      added := ← positional decodeTextList .sections items 0
      changed := ← positional decodeTextList .sections items 1
      deprecated := ← positional decodeTextList .sections items 2
      removed := ← positional decodeTextList .sections items 3
      fixed := ← positional decodeTextList .sections items 4
      security := ← positional decodeTextList .sections items 5
      other := ← positional decodeTextList .sections items 6 }
    noMoreThan .sections items
    return sections
  | other => .error (.mismatch other .sections)

open Decoded in
def Document.ofValue : Value → Decoded Document
  | .object members => do
    let date ← optional decodeText "date".toList members
    let changelog ← optional Sections.ofValue "keep_a_changelog".toList members
    let sourceRepo ← optional decodeText "source_repo".toList members
    let tag ← optional decodeText "tag".toList members
    let version ← optional decodeText "version".toList members
    return {
      version := ← required "version".toList version
      tag := ← required "tag".toList tag
      date := ← required "date".toList date
      sourceRepo := ← required "source_repo".toList sourceRepo
      changelog := ← required "keep_a_changelog".toList changelog }
  | .array items => do
    let document : Document := {
      version := ← positional decodeText .document items 0
      tag := ← positional decodeText .document items 1
      date := ← positional decodeText .document items 2
      sourceRepo := ← positional decodeText .document items 3
      changelog := ← positional Sections.ofValue .document items 4 }
    noMoreThan .document items
    return document
  | other => .error (.mismatch other .document)

end ReleaseNotes
