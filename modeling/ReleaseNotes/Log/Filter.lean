import ReleaseNotes.Log.Directive
import ReleaseNotes.Log.Event

/-! Which events are logged. A filter is a list of directives, each a level for the origins that begin
with its target. The most specific directive that applies to an event decides; a longer target is more
specific, and of two alike the later one counts. -/
namespace ReleaseNotes

abbrev Filter := List Directive

namespace Filter

def pieces (text : Text) : List Text :=
  (text.splitOn ',').filter (· != [])

/-- A filter as a variable spells it, or the first fault of a directive. -/
def read (text : Text) : Except Directive.Fault Filter :=
  (pieces text).mapM Directive.read

def standard (verbose : Bool) : Filter :=
  [{ level := if verbose then .debug else .warn }]

/-- The filter a variable asks for, or the standard one if it is unset or malformed. There is none if
a directive splits a character. -/
def choose? (verbose : Bool) (spelling? : Option Text) : Option Filter :=
  match spelling?.map read with
  | some (.ok filter) => some filter
  | some (.error .split) => none
  | some (.error .malformed) | none => some (standard verbose)

/-- The directive that decides about an origin. -/
def deciding? (filter : Filter) (origin : Text) : Option Directive :=
  (filter.filter (·.applies origin)).foldl (fun best? directive =>
    match best? with
    | some best => if best.rank ≤ directive.rank then some directive else some best
    | none => some directive) none

def admits (filter : Filter) (event : Event) : Bool :=
  match filter.deciding? event.origin with
  | some directive => directive.level.admitsDebug
  | none => false

end Filter

/-- The controls below 0x80 that a terminal acts on. -/
def terminalControls : List Char :=
  ['\x07', '\x08', '\x0c', '\x1b', '\x7f']

/-- Characters that could drive a terminal are shown as escapes. -/
def showControl (c : Char) : Text :=
  if terminalControls.contains c then "\\x".toList ++ Text.twoHex c.toNat
  else if 0x80 ≤ c.toNat ∧ c.toNat ≤ 0x9f then Text.codeEscape c
  else [c]

def Filter.log (filter : Filter) (events : List Event) : List Text :=
  (events.filter filter.admits).map fun event => event.line.flatMap showControl

end ReleaseNotes
