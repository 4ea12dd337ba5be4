import ReleaseNotes.Commit.Item
import ReleaseNotes.Notes.Candidate

/-! Which candidates become entries. Every candidate gets one ruling: automatic dependency updates go,
repeated lines go, all others stay. A dependency update is no first occurrence of anything. -/
namespace ReleaseNotes

inductive Ruling where
  | keep
  | bump (item : Item) (subject : Subject)
  | repeated
  deriving DecidableEq, Repr

/-- The item and subject of a line that is an automatic dependency update. -/
def bump? (line : Text) : Option (Item × Subject) := do
  let item ← Item.parse? line
  let subject ← item.bump?
  return (item, subject)

def rule (seen : List Text) (line : Text) : Ruling :=
  match bump? line with
  | some (item, subject) => .bump item subject
  | none => if seen.contains line then .repeated else .keep

def rulingsAfter (seen : List Text) : List Text → List (Text × Ruling)
  | [] => []
  | line :: rest =>
    match rule seen line with
    | .keep => (line, .keep) :: rulingsAfter (line :: seen) rest
    | ruling => (line, ruling) :: rulingsAfter seen rest

def rulings (lines : List Text) : List (Text × Ruling) :=
  rulingsAfter [] lines

/-- The lines that stay. -/
def kept (lines : List Text) : List Text :=
  ((rulings lines).filter (·.2 == .keep)).map (·.1)

/-- The entries of a release body. -/
def entries (body : Text) : List Text :=
  kept (candidates body)

/-- No line is lost and none is ruled on twice. -/
theorem rulingsAfter_map_fst (seen lines : List Text) :
    (rulingsAfter seen lines).map (·.1) = lines := by
  induction lines generalizing seen with
  | nil => rfl
  | cons line rest ih =>
    simp only [rulingsAfter]
    split <;> simp [ih]

@[simp] theorem rulings_map_fst (lines : List Text) : (rulings lines).map (·.1) = lines :=
  rulingsAfter_map_fst [] lines

@[simp] theorem length_rulings (lines : List Text) : (rulings lines).length = lines.length := by
  have same := congrArg List.length (rulings_map_fst lines)
  rwa [List.length_map] at same

@[simp] theorem kept_nil : kept [] = [] := rfl

end ReleaseNotes
