import ReleaseNotes.Log.Pattern
import ReleaseNotes.Text.Digit
import ReleaseNotes.Text.Fold

/-! What a directive asks of an event besides its origin. A field in a filter is read only as far as
telling whether an event can have it and whether its value is well formed. -/
namespace ReleaseNotes

/-- What a directive asks of an event besides its origin. -/
inductive Condition where
  | anything
  /-- That it carries a message, as every event does. -/
  | message
  /-- That it stands inside a span or carries some other field, as no event does. -/
  | impossible
  deriving DecidableEq, Repr

namespace Condition

def dropSign : Text → Text
  | '+' :: text | '-' :: text => text
  | text => text

def isExponent : Text → Bool
  | [] => true
  | e :: text =>
    let digits := dropSign text
    Text.foldAscii e == 'e' && digits != [] && digits.all Text.isAsciiDigit

/-- Digits, with a point among, before or behind them, and perhaps an exponent. -/
def isDecimal (text : Text) : Bool :=
  match text.span Text.isAsciiDigit with
  | (whole, '.' :: rest) =>
    let (places, rest) := rest.span Text.isAsciiDigit
    whole ++ places != [] && isExponent rest
  | (whole, rest) => whole != [] && isExponent rest

/-- Numbers that are no decimals. -/
def limitNames : List Text :=
  ["inf", "infinity", "nan"].map String.toList

/-- A number with a plus sign in front. As a pattern it would have nothing to repeat. -/
def isPlusNumber : Text → Bool
  | '+' :: text => isDecimal text || limitNames.contains (text.map Text.foldAscii)
  | _ => false

/-- Values are truth values, numbers and patterns. Only a number with a plus sign is no pattern too. -/
def isValue (text : Text) : Bool :=
  isPlusNumber text || Pattern.wellFormed text

/-- What a field asks, `name` or `name=value`; nothing behind a second equals sign counts. -/
def ofField? (field : Text) : Option Condition :=
  match field.splitOn '=' with
  | [] | [[]] => none
  | [name] => some (if name == "message".toList then .message else .impossible)
  | _ :: value :: _ => if isValue value then some .impossible else none

end Condition

end ReleaseNotes
