import ReleaseNotes.Text.Alphanumeric
import ReleaseNotes.Text.Space

/-! Patterns for the value of a field. No event has a field with a value, so a pattern is never held
against anything: it only has to be well formed. Patterns stand in braces and have none of their own.
Every step of a reading takes a character, so it has no more steps than there are characters. -/
namespace ReleaseNotes.Pattern

/-- What a pattern can switch for the rest of a group. -/
structure Modes where
  /-- Blanks and comments do not count. -/
  spaced : Bool := false
  /-- Characters beyond ASCII can be members of a set. -/
  wide : Bool := true
  deriving DecidableEq, Repr

/-- The text behind leading space, comments up to the end of their line, and characters that are
`also` passed over. -/
def dropBlanks (also : Char → Bool) : Bool → Text → Text
  | _, [] => []
  | true, c :: text => dropBlanks also (c != '\n') text
  | false, c :: text =>
    if c == '#' then dropBlanks also true text
    else if Text.isSpace c || also c then dropBlanks also false text
    else c :: text

namespace Modes

/-- The text from the next character that counts and is not `also` passed over. -/
def skipAlso (modes : Modes) (also : Char → Bool) (text : Text) : Text :=
  if modes.spaced then dropBlanks also false text else text.dropWhile also

def skip (modes : Modes) (text : Text) : Text :=
  modes.skipAlso (fun _ => false) text

/-- The character ahead, as it is looked for behind a hyphen: one comment sign counts as a blank. -/
def ahead? (modes : Modes) (text : Text) : Option Char :=
  if modes.spaced then
    match Text.trimStart text with
    | '#' :: rest => (Text.trimStart rest).head?
    | rest => rest.head?
  else text.head?

/-- The modes behind flags. Those before the hyphen are switched on and those after it off. -/
def switch (modes : Modes) (flags : Text) : Modes :=
  let (on, off) := flags.span (· != '-')
  { spaced := (modes.spaced || on.contains 'x') && !off.contains 'x',
    wide := (modes.wide || on.contains 'u') && !off.contains 'u' }

end Modes

inductive Escape where
  | literal (c : Char)
  /-- Any character of a set. -/
  | set
  /-- A place between characters. -/
  | anchor
  deriving DecidableEq, Repr

def controlLetters : List (Char × Char) :=
  [('a', '\x07'), ('f', '\x0c'), ('t', '\t'), ('n', '\n'), ('r', '\r'), ('v', '\x0b')]

/-- Letters that announce a code point, each with the number of its digits. -/
def codeLetters : List (Char × Nat) :=
  [('x', 2), ('u', 4), ('U', 8)]

def hexDigit? (c : Char) : Option Nat :=
  let value := "0123456789abcdef".toList.idxOf c.toLower
  if value < 16 then some value else none

/-- A number of `digits` more hexadecimal digits, of which the first ones make `value`. -/
def readHex? (modes : Modes) : Nat → Nat → Text → Option (Nat × Text)
  | 0, value, text => some (value, text)
  | digits + 1, value, text =>
    match modes.skip text with
    | [] => none
    | c :: rest => (hexDigit? c).bind fun d => readHex? modes digits (16 * value + d) rest

/-- A code point. Two digits make a byte, and a byte beyond ASCII is no character of a narrow
pattern. -/
def readCode? (modes : Modes) (digits : Nat) (text : Text) : Option (Escape × Text) := do
  let (code, rest) ← readHex? modes digits 0 text
  if code.isValidChar ∧ (modes.wide ∨ digits ≠ 2 ∨ code < 0x80) then
    some (.literal (Char.ofNat code), rest)
  else none

/-- A general category by its letter: other, letter, mark, number, punctuation, symbol, separator. -/
def readCategory? (modes : Modes) (text : Text) : Option (Escape × Text) :=
  match modes.skip text with
  | c :: rest => if modes.wide && "clmnpsz".toList.contains c.toLower then some (.set, rest) else none
  | [] => none

/-- An escape behind its backslash. Word boundaries are known for ASCII only. -/
def readEscape? (modes : Modes) : Text → Option (Escape × Text)
  | [] => none
  | c :: rest =>
    match codeLetters.lookup c, controlLetters.lookup c with
    | some digits, _ => readCode? modes digits rest
    | none, some control => some (.literal control, rest)
    | none, none =>
      if c == 'p' || c == 'P' then readCategory? modes rest
      else if "dsw".toList.contains c || modes.wide && "DSW".toList.contains c then some (.set, rest)
      else if "Az".toList.contains c || !modes.wide && "bB<>".toList.contains c then
        some (.anchor, rest)
      else if c.toNat < 0x80 && !c.isAlphanum && c != '<' && c != '>' then some (.literal c, rest)
      else none

def setNames : List Text :=
  ["alnum", "alpha", "ascii", "blank", "cntrl", "digit", "graph", "lower", "print", "punct", "space",
   "upper", "word", "xdigit"].map String.toList

/-- A named set within brackets, behind its own bracket: whether it is negated, and what follows. -/
def readNamedSet? : Text → Option (Bool × Text)
  | ':' :: text =>
    let name? := Text.dropWord? id ['^'] text
    match (name?.getD text).span (· != ':') with
    | (name, ':' :: ']' :: rest) =>
      if setNames.contains name then some (name?.isSome, rest) else none
    | _ => none
  | _ => none

def readMember? (modes : Modes) : Text → Option (Escape × Text)
  | [] => none
  | '\\' :: text => readEscape? modes text
  | c :: text => some (.literal c, text)

def Escape.isMember (modes : Modes) : Escape → Bool
  | .literal c => modes.wide || c.toNat < 0x80
  | .set => true
  | .anchor => false

def Escape.isRange : Escape → Escape → Bool
  | .literal first, .literal last => first ≤ last
  | _, _ => false

/-- What is behind a member of a set, or behind a range of members. A hyphen makes a range unless it
comes before a closing bracket or another hyphen. -/
def dropMember? (modes : Modes) (text : Text) : Option Text := do
  let (first, rest) ← readMember? modes text
  let single := if first.isMember modes then some rest else none
  match modes.skip rest with
  | '-' :: more =>
    if modes.ahead? more == some ']' || modes.ahead? more == some '-' then single
    else
      let (last, rest) ← readMember? modes (modes.skip more)
      if first.isMember modes && last.isMember modes && first.isRange last then some rest else none
  | _ => single

/-- The members of a set behind its opening bracket and a caret that negates it. Leading hyphens, or
else one leading closing bracket, are members and are passed over. -/
def openSet? (modes : Modes) (text : Text) : Option Text :=
  let members? := match modes.skip text with
    | '^' :: rest => if modes.wide then some (modes.skip rest) else none
    | rest => some rest
  members?.map fun
    | ']' :: rest => rest
    | rest => modes.skipAlso (· == '-') rest

/-- What is behind a set, read among its members, while `depth` sets are open around it. -/
def dropSet? (modes : Modes) : Nat → Nat → Text → Option Text
  | 0, _, _ => none
  | steps + 1, depth, text =>
    match modes.skip text, depth with
    | [], _ => none
    | ']' :: rest, 0 => some rest
    | ']' :: rest, depth + 1 => dropSet? modes steps depth rest
    | '[' :: rest, depth =>
      match readNamedSet? rest with
      | some (negated, rest) => if modes.wide || !negated then dropSet? modes steps depth rest else none
      | none => (openSet? modes rest).bind (dropSet? modes steps (depth + 1))
    | '&' :: '&' :: rest, depth | '-' :: '-' :: rest, depth | '~' :: '~' :: rest, depth =>
      dropSet? modes steps depth rest
    | members, depth => (dropMember? modes members).bind (dropSet? modes steps depth)

structure Place where
  modes : Modes := {}
  /-- The modes around each open group, innermost first. -/
  around : List Modes := []
  /-- Whether something to repeat is in front. -/
  repeatable : Bool := false
  /-- The names that groups have been given. -/
  names : List Text := []
  deriving DecidableEq, Repr

namespace Place

def enter (place : Place) (modes : Modes) : Place :=
  { place with modes, around := place.modes :: place.around, repeatable := false }

def passed (place : Place) : Place :=
  { place with repeatable := true }

end Place

/-- The name of a group up to its angle bracket, and what follows; no two groups share a name. -/
def readName? (names : List Text) (text : Text) : Option (Text × Text) :=
  match text.span (· != '>') with
  | (c :: name, '>' :: rest) =>
    if (c == '_' || Text.isAlphabetic c) &&
        name.all (fun c => "_.[]".toList.contains c || Text.isAlphanumeric c) &&
        !names.contains (c :: name) then
      some (c :: name, rest)
    else none
  | _ => none

/-- Flags are letters, each at most once, with at most one hyphen among them and none at the end. -/
def wellFormedFlags (flags : Text) : Bool :=
  flags.all "imsURux-".toList.contains && flags.eraseDups == flags && flags.getLast? != some '-'

/-- A group behind its parenthesis: named, with flags, or plain. Flags without a group hold for the
rest of the group around them. -/
def openGroup? (place : Place) (text : Text) : Option (Place × Text) :=
  match place.modes.skip text with
  | '?' :: 'P' :: '<' :: rest | '?' :: '<' :: rest =>
    (readName? place.names rest).map fun (name, rest) =>
      ({ place.enter place.modes with names := name :: place.names }, rest)
  | '?' :: rest =>
    let (flags, rest) := rest.span fun c => c != ':' && c != ')'
    let modes := place.modes.switch flags
    match wellFormedFlags flags, rest with
    | true, ':' :: rest => some (place.enter modes, rest)
    | true, ')' :: rest =>
      if flags == [] then none else some ({ place with modes, repeatable := false }, rest)
    | _, _ => none
  | rest => some (place.enter place.modes, rest)

def step? (place : Place) (c : Char) (rest : Text) : Option (Place × Text) :=
  match c with
  | '(' => openGroup? place rest
  | ')' =>
    match place.around with
    | modes :: around => some ({ place.passed with modes, around }, rest)
    | [] => none
  | '|' => some ({ place with repeatable := false }, rest)
  | '?' | '*' | '+' => if place.repeatable then some (place, rest) else none
  | '[' =>
    (openSet? place.modes rest).bind fun members =>
      (dropSet? place.modes (members.length + 1) 0 members).map (place.passed, ·)
  | '\\' => (readEscape? place.modes rest).map fun (_, rest) => (place.passed, rest)
  | '.' => if place.modes.wide then some (place.passed, rest) else none
  | '\x7b' => none
  | _ => some (place.passed, rest)

def wellFormedFrom : Nat → Place → Text → Bool
  | 0, _, _ => false
  | steps + 1, place, text =>
    match place.modes.skip text with
    | [] => place.around.isEmpty
    | c :: rest =>
      match step? place c rest with
      | some (place, rest) => wellFormedFrom steps place rest
      | none => false

/-- Whether a text is a pattern. -/
def wellFormed (text : Text) : Bool :=
  wellFormedFrom (text.length + 1) {} text

example : wellFormed "(?P<n>a|[^]&&[:^alpha:]-]+)*\\x41(?x: b # c".toList = false := by decide +kernel

example : wellFormed "(?P<n>a|[^]&&[:^alpha:]-]+)*\\x41(?x: b )".toList = true := by decide +kernel

end ReleaseNotes.Pattern
