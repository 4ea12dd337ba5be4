import ReleaseNotes.Json.Value

/-! JSON text. What may differ between two writings of a value is the blank text around its marks, and
a layout says what that text is; everything else is fixed here. -/
namespace ReleaseNotes.Json

/-- The blank text a writing puts around marks, which for some places depends on the depth. -/
structure Layout where
  /-- Inside a pair of brackets that is not empty, next to each of the two. -/
  edge : Nat → Text
  /-- After a comma. -/
  item : Nat → Text
  /-- After a colon. -/
  value : Text

namespace Layout

def minimal : Layout where
  edge _ := []
  item _ := []
  value := []

@[simp] theorem minimal_edge (depth : Nat) : minimal.edge depth = [] := rfl

@[simp] theorem minimal_item (depth : Nat) : minimal.item depth = [] := rfl

@[simp] theorem minimal_value : minimal.value = [] := rfl

/-- All on one line, with a space after each comma and each colon. -/
def spaced : Layout where
  edge _ := []
  item _ := [' ']
  value := [' ']

def newLine (depth : Nat) : Text :=
  '\n' :: List.replicate (2 * depth) ' '

/-- One line for each item, two spaces deeper than the brackets around it. -/
def indented : Layout where
  edge := newLine
  item := newLine
  value := [' ']

end Layout

/-- The characters that have a short escape, each with the letter behind its backslash. -/
def shortEscapes : List (Char × Char) :=
  [('"', '"'), ('\\', '\\'), ('\x08', 'b'), ('\t', 't'), ('\n', 'n'), ('\x0c', 'f'), ('\r', 'r')]

/-- The form of a character inside a string: quotes, backslashes and controls are escaped, and
everything else, the delete character and the line separators included, stands for itself. -/
def escape (c : Char) : Text :=
  match shortEscapes.lookup c with
  | some letter => ['\\', letter]
  | none => if c.toNat < 0x20 then "\\u00".toList ++ Text.twoHex c.toNat else [c]

theorem escape_cases (c : Char) :
    (∃ letter, shortEscapes.lookup c = some letter ∧ escape c = ['\\', letter]) ∨
    (c.toNat < 0x20 ∧ escape c = "\\u00".toList ++ Text.twoHex c.toNat) ∨
    (0x20 ≤ c.toNat ∧ c ≠ '"' ∧ c ≠ '\\' ∧ escape c = [c]) := by
  unfold escape
  split
  · rename_i letter listed
    exact .inl ⟨letter, listed, rfl⟩
  · rename_i unlisted
    split
    · rename_i control
      exact .inr (.inl ⟨control, rfl⟩)
    · rename_i printed
      refine .inr (.inr ⟨by omega, ?_, ?_, rfl⟩)
      · rintro rfl
        contradiction
      · rintro rfl
        contradiction

/-- Only quotes, backslashes and controls do not stand for themselves. -/
theorem escape_eq_self_iff (c : Char) : escape c = [c] ↔ c ≠ '"' ∧ c ≠ '\\' ∧ 0x20 ≤ c.toNat := by
  rcases escape_cases c with ⟨letter, listed, same⟩ | ⟨control, same⟩ | ⟨printed, unquoted, unslashed, same⟩
  · have marked : ∀ pair ∈ shortEscapes, ¬(pair.1 ≠ '"' ∧ pair.1 ≠ '\\' ∧ 0x20 ≤ pair.1.toNat) := by decide
    obtain ⟨before, after, whole, -⟩ := List.lookup_eq_some_iff.mp listed
    have notPlain := marked (c, letter) (by simp [whole])
    rw [same]
    exact iff_of_false (by simp) notPlain
  · have notPlain : ¬(c ≠ '"' ∧ c ≠ '\\' ∧ 0x20 ≤ c.toNat) := fun plain => Nat.not_le.mpr control plain.2.2
    rw [same]
    exact iff_of_false (by simp [Text.twoHex]) notPlain
  · exact iff_of_true same ⟨unquoted, unslashed, printed⟩

def writeString (text : Text) : Text :=
  '"' :: text.flatMap escape ++ ['"']

mutual

/-- The text of a value whose brackets stand at the given depth. -/
def write (layout : Layout) (depth : Nat) : Value → Text
  | .null => "null".toList
  | .bool true => "true".toList
  | .bool false => "false".toList
  | .number spelling => spelling
  | .string text => writeString text
  | .array [] => ['[', ']']
  | .array (v :: rest) =>
    '[' :: layout.edge (depth + 1) ++ write layout (depth + 1) v ++
      writeItems layout (depth + 1) rest ++ layout.edge depth ++ [']']
  | .object [] => ['\x7b', '\x7d']
  | .object ((name, v) :: rest) =>
    '\x7b' :: layout.edge (depth + 1) ++ writeString name ++ ':' :: layout.value ++
      write layout (depth + 1) v ++ writeMembers layout (depth + 1) rest ++
      layout.edge depth ++ ['\x7d']

/-- The items after the first, each behind its comma. -/
def writeItems (layout : Layout) (depth : Nat) : List Value → Text
  | [] => []
  | v :: rest => ',' :: layout.item depth ++ write layout depth v ++ writeItems layout depth rest

def writeMembers (layout : Layout) (depth : Nat) : List (Text × Value) → Text
  | [] => []
  | (name, v) :: rest =>
    ',' :: layout.item depth ++ writeString name ++ ':' :: layout.value ++ write layout depth v ++
      writeMembers layout depth rest

end

end ReleaseNotes.Json
