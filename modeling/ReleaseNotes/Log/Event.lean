import ReleaseNotes.Release.Basic
import ReleaseNotes.Text.Quoted

/-! What a run reports about its decisions, all of it for debugging. The events of a release are read
off the same rulings and entries as its document. -/
namespace ReleaseNotes

inductive Event where
  /-- The release that was found. -/
  | resolved (release : Release)
  /-- An automatic dependency update was left out. -/
  | skippedBump (item : Item) (subject : Subject)
  /-- A repeated line was left out. -/
  | skippedRepeat (line : Text)
  /-- So many candidates were found and so many of them kept. -/
  | extracted (found keeping : Nat)
  /-- An entry went into a section. -/
  | placed (entry : Text) (target : Section)
  /-- The sections that have entries. -/
  | summary (counts : List (Section × Nat))
  deriving DecidableEq, Repr

namespace Event

/-- The part of the program an event comes from; filters go by the beginnings of this name. -/
def origin : Event → Text
  | .resolved _ | .summary _ => "kac_notes".toList
  | .extracted _ _ => "kac_notes::notes".toList
  | .skippedBump _ _ | .skippedRepeat _ => "kac_notes::notes::filter".toList
  | .placed _ _ => "kac_notes::changelog::payload".toList

def pullText : Option Nat → Text
  | some n => Text.ofNat n
  | none => ['?']

def countText (count : Section × Nat) : Text :=
  '(' :: count.1.title ++ ", ".toList ++ Text.ofNat count.2 ++ [')']

def message : Event → Text
  | .resolved release =>
    "Resolved release tag=".toList ++ Text.quoted release.tag ++
      " version=".toList ++ Text.quoted release.version ++
      " date=".toList ++ Text.quoted release.date ++
      " source_repo=".toList ++ Text.quoted release.sourceRepo ++
      " (".toList ++ Text.ofNat (Text.utf8 release.body).length ++ " body bytes)".toList
  | .skippedBump item subject =>
    "Skipping dependency bump ".toList ++ subject.kind.word ++ '(' :: subject.scope ++
      ") by ".toList ++ item.author ++ " (PR #".toList ++ pullText item.pull ++ [')']
  | .skippedRepeat line => "Skipping duplicate entry: ".toList ++ line
  | .extracted found keeping =>
    "Extracted ".toList ++ Text.ofNat found ++ " candidate lines, kept ".toList ++
      Text.ofNat keeping ++ " entries".toList
  | .placed entry target => entry ++ " -> ".toList ++ target.title
  | .summary counts =>
    "Sections: [".toList ++ (", ".toList).intercalate (counts.map countText) ++ [']']

/-- The line that reports an event, without the time in front of it. -/
def line (event : Event) : Text :=
  "DEBUG ".toList ++ event.message

end Event

def Ruling.event? (line : Text) : Ruling → Option Event
  | .keep => none
  | .bump item subject => some (.skippedBump item subject)
  | .repeated => some (.skippedRepeat line)

namespace Release

def events (release : Release) : List Event :=
  let found := candidates release.body
  (rulings found).filterMap (fun (line, ruling) => ruling.event? line) ++
    .extracted found.length release.entries.length ::
      release.entries.map fun entry => .placed entry (sectionOf entry)

def runEvents (release : Release) : List Event :=
  .resolved release :: release.events ++ [.summary release.changelog.counts]

end Release

end ReleaseNotes
