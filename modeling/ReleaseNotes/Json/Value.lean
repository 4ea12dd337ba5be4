import ReleaseNotes.Text.Basic

/-! JSON values. A number keeps its spelling, and an object keeps its members in the order given. -/
namespace ReleaseNotes.Json

inductive Value where
  | null
  | bool (value : Bool)
  | number (spelling : Text)
  | string (text : Text)
  | array (items : List Value)
  | object (members : List (Text × Value))
  deriving Inhabited

/-- The value of the first member of that name. -/
def member? (name : Text) (members : List (Text × Value)) : Option Value :=
  (members.find? (·.1 == name)).map (·.2)

end ReleaseNotes.Json
