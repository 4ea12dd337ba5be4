import ReleaseNotes.Json.Value

/-! JSON text by its grammar. A value is a list of tokens, which is all its own doing; each token has its
spellings, and padding may stand in front of and behind every one of them. -/
namespace ReleaseNotes.Json

inductive Mark where
  | openArray | closeArray | openObject | closeObject | colon | comma
  deriving DecidableEq, Repr

namespace Mark

def all : List Mark :=
  [.openArray, .closeArray, .openObject, .closeObject, .colon, .comma]

def char : Mark → Char
  | .openArray => '['
  | .closeArray => ']'
  | .openObject => '\x7b'
  | .closeObject => '\x7d'
  | .colon => ':'
  | .comma => ','

def ofChar? (c : Char) : Option Mark :=
  all.find? (·.char == c)

@[simp] theorem ofChar?_char (mark : Mark) : ofChar? mark.char = some mark := by
  cases mark <;> decide

theorem char_of_ofChar? {c : Char} {mark : Mark} (found : ofChar? c = some mark) : mark.char = c := by
  simpa using List.find?_some found

end Mark

inductive Token where
  | mark (mark : Mark)
  | null
  | bool (value : Bool)
  | number (spelling : Text)
  | string (text : Text)
  deriving DecidableEq, Repr

mutual

/-- The tokens of a value, in order. -/
def Value.tokens : Value → List Token
  | .null => [.null]
  | .bool value => [.bool value]
  | .number spelling => [.number spelling]
  | .string text => [.string text]
  | .array items => .mark .openArray :: itemTokens items ++ [.mark .closeArray]
  | .object members => .mark .openObject :: memberTokens members ++ [.mark .closeObject]

def itemTokens : List Value → List Token
  | [] => []
  | v :: rest => v.tokens ++ furtherItemTokens rest

/-- The items after the first, each behind its comma. -/
def furtherItemTokens : List Value → List Token
  | [] => []
  | v :: rest => .mark .comma :: v.tokens ++ furtherItemTokens rest

def memberTokens : List (Text × Value) → List Token
  | [] => []
  | (name, v) :: rest => .string name :: .mark .colon :: v.tokens ++ furtherMemberTokens rest

def furtherMemberTokens : List (Text × Value) → List Token
  | [] => []
  | (name, v) :: rest =>
    .mark .comma :: .string name :: .mark .colon :: v.tokens ++ furtherMemberTokens rest

end

/-- Space, tab, line feed and carriage return. -/
def isPad (c : Char) : Bool :=
  [' ', '\t', '\n', '\r'].contains c

def Padding (text : Text) : Prop :=
  ∀ c ∈ text, isPad c = true

/-- The letters that stand for a character behind a backslash. -/
def letterEscapes : List (Char × Char) :=
  [('"', '"'), ('\\', '\\'), ('/', '/'), ('b', '\x08'), ('f', '\x0c'), ('n', '\n'), ('r', '\r'),
   ('t', '\t')]

def hexValue? (c : Char) : Option Nat :=
  if '0' ≤ c ∧ c ≤ '9' then some (c.toNat - '0'.toNat)
  else if 'a' ≤ c ∧ c ≤ 'f' then some (c.toNat - 'a'.toNat + 10)
  else if 'A' ≤ c ∧ c ≤ 'F' then some (c.toNat - 'A'.toNat + 10)
  else none

/-- The code unit that four hexadecimal digits write. -/
def codeUnit? : Text → Option Nat
  | [a, b, c, d] => do
    let a ← hexValue? a
    let b ← hexValue? b
    let c ← hexValue? c
    let d ← hexValue? d
    return ((a * 16 + b) * 16 + c) * 16 + d
  | _ => none

def isHighSurrogate (unit : Nat) : Bool :=
  0xD800 ≤ unit && unit ≤ 0xDBFF

def isLowSurrogate (unit : Nat) : Bool :=
  0xDC00 ≤ unit && unit ≤ 0xDFFF

/-- The character beyond the basic plane that two surrogates write. -/
def ofSurrogates (high low : Nat) : Char :=
  Char.ofNat (0x10000 + (high - 0xD800) * 0x400 + (low - 0xDC00))

/-- The spellings of a character inside a string. A surrogate that is not part of a pair writes no
character. -/
inductive CharSpelling : Char → Text → Prop where
  | plain {c : Char} : 0x20 ≤ c.toNat → c ≠ '"' → c ≠ '\\' → CharSpelling c [c]
  | letter {letter c : Char} : letterEscapes.lookup letter = some c → CharSpelling c ['\\', letter]
  | unit {digits : Text} {unit : Nat} : codeUnit? digits = some unit → isHighSurrogate unit = false →
      isLowSurrogate unit = false → CharSpelling (Char.ofNat unit) ('\\' :: 'u' :: digits)
  | pair {digits more : Text} {high low : Nat} : codeUnit? digits = some high →
      isHighSurrogate high = true → codeUnit? more = some low → isLowSurrogate low = true →
      CharSpelling (ofSurrogates high low) ('\\' :: 'u' :: digits ++ '\\' :: 'u' :: more)

/-- A text between quotes, character by character. -/
inductive Quoting : Text → Text → Prop where
  | nil : Quoting [] []
  | cons {c : Char} {text spelling rest : Text} : CharSpelling c spelling → Quoting text rest →
      Quoting (c :: text) (spelling ++ rest)

def isDigits (text : Text) : Bool :=
  text != [] && text.all Char.isDigit

/-- Without one sign of those given, if the text begins with one. -/
def dropSign (signs : List Char) : Text → Text
  | [] => []
  | c :: rest => if signs.contains c then rest else c :: rest

def isFraction : Text → Bool
  | '.' :: digits => isDigits digits
  | text => text == []

def isExponent : Text → Bool
  | c :: rest => (c == 'e' || c == 'E') && isDigits (dropSign ['+', '-'] rest)
  | [] => true

/-- A number in decimal: a whole part without needless zeros in front, a fraction and an exponent, of
which the last two may be missing. -/
def isNumber (text : Text) : Bool :=
  let (whole, rest) := (dropSign ['-'] text).span Char.isDigit
  let (fraction, exponent) := rest.span fun c => c != 'e' && c != 'E'
  (whole == ['0'] || (isDigits whole && whole.head? != some '0')) && isFraction fraction &&
    isExponent exponent

inductive TokenSpelling : Token → Text → Prop where
  | mark (mark : Mark) : TokenSpelling (.mark mark) [mark.char]
  | null : TokenSpelling .null "null".toList
  | true : TokenSpelling (.bool true) "true".toList
  | false : TokenSpelling (.bool false) "false".toList
  | number {spelling : Text} : isNumber spelling = true → TokenSpelling (.number spelling) spelling
  | string {text quoting : Text} : Quoting text quoting →
      TokenSpelling (.string text) ('"' :: quoting ++ ['"'])

/-- A text that is a list of tokens with padding around them. -/
inductive Written : List Token → Text → Prop where
  | nil {gap : Text} : Padding gap → Written [] gap
  | cons {gap spelling rest : Text} {token : Token} {tokens : List Token} : Padding gap →
      TokenSpelling token spelling → Written tokens rest →
      Written (token :: tokens) (gap ++ (spelling ++ rest))

/-- JSON text for a value. -/
def Value.WrittenAs (v : Value) (text : Text) : Prop :=
  Written v.tokens text

end ReleaseNotes.Json
