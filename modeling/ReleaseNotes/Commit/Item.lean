import ReleaseNotes.Commit.Subject
import ReleaseNotes.Text.Digit

/-! A release-note item is a subject followed by its attribution, `by @author in link`. The
attribution is read from the end of the line, so the last one counts and earlier ones stay in the
subject. -/
namespace ReleaseNotes

structure Item where
  subject : Text
  author : Text
  link : Text
  /-- The number in a link to a pull request. -/
  pull : Option Nat
  /-- The subject taken apart, if it is conventional. -/
  conventional : Option Subject
  deriving DecidableEq, Repr

namespace Item

/-- A web address: its scheme in any case, a long s passing for an s, and something after it. -/
def isLink (word : Text) : Bool :=
  match Text.dropWord? Text.foldSimple "http".toList word with
  | some rest =>
    match Text.dropWord? id "://".toList ((Text.dropWord? Text.foldSimple ['s'] rest).getD rest) with
    | some (_ :: _) => true
    | _ => false
  | none => false

/-- The digits behind the first `/pull/` that has a digit behind it. -/
def pullDigits? : Text → Option Text
  | [] => none
  | c :: rest =>
    match Text.dropWord? id "/pull/".toList (c :: rest) with
    | some (d :: after) =>
      if Text.isDigit d then some ((d :: after).takeWhile Text.isDigit) else pullDigits? rest
    | _ => pullDigits? rest

/-- Pull numbers fit into a 64-bit word. -/
def pullBound : Nat :=
  UInt64.size

/-- The number those digits write. Digits of other scripts and numbers out of bounds count as none,
even if a later part of the link would do. -/
def pullNumber? (link : Text) : Option Nat := do
  let digits ← pullDigits? link
  if digits.all Text.isAsciiDigit && Text.decimalValue digits < pullBound then
    some (Text.decimalValue digits)
  else none

/-- Reads the words `by @author in link` off the end of a trimmed line. -/
def parse? (line : Text) : Option Item := do
  let (front, link) := Text.splitLastWord (Text.trim line)
  let (front, inWord) := Text.splitLastWord front
  let (front, handle) := Text.splitLastWord front
  let (subject, byWord) := Text.splitLastWord front
  match handle with
  | '@' :: author =>
    if isLink link && inWord.map Text.foldAscii == "in".toList && author != [] &&
        byWord.map Text.foldAscii == "by".toList && subject != [] && !subject.contains '\n' then
      some { subject, author, link, pull := pullNumber? link, conventional := Subject.parse? subject }
    else none
  | _ => none

/-- Accounts of the dependency bot start with this, in any case. -/
def botName : Text :=
  "dependabot".toList

def dependencyScope : Text :=
  "deps".toList

/-- The subject of an automatic dependency update: one by the bot, of kind `build`, on the
dependencies. The scope is taken as it stands. -/
def bump? (item : Item) : Option Subject :=
  if botName.isPrefixOf (Text.lowercase item.author) then
    item.conventional.filter fun subject =>
      subject.kind == .build && dependencyScope.isPrefixOf subject.scope
  else none

def isBump (item : Item) : Bool :=
  item.bump?.isSome

end Item

end ReleaseNotes
