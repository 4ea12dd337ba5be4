import ReleaseNotes.Text.Digit
import ReleaseNotes.Text.Fold

/-! How much is logged, as a filter spells it. -/
namespace ReleaseNotes

/-- How much is logged, least first. -/
inductive Level where
  | off | error | warn | info | debug | trace
  deriving DecidableEq, Repr

namespace Level

def all : List Level :=
  [.off, .error, .warn, .info, .debug, .trace]

def name : Level → Text
  | .off => "off".toList
  | .error => "error".toList
  | .warn => "warn".toList
  | .info => "info".toList
  | .debug => "debug".toList
  | .trace => "trace".toList

/-- All events are for debugging. -/
def admitsDebug : Level → Bool
  | .debug | .trace => true
  | _ => false

/-- A level by its number, from 0 for `off` to 5 for `trace`; a plus sign may stand in front. -/
def ofNumber? (text : Text) : Option Level :=
  let digits := (Text.dropWord? id ['+'] text).getD text
  if digits != [] && digits.all Text.isAsciiDigit then all[Text.decimalValue digits]? else none

def read? (text : Text) : Option Level :=
  ofNumber? text <|> all.find? fun level => level.name == text.map Text.foldAscii

end Level

end ReleaseNotes
