import ReleaseNotes.Proofs.Json.Scanner

/-! A reader of JSON texts. It goes over the tokens once, with the arrays and objects that are still open
on a stack, and reads a text as a value exactly when the text is one of the writings of that value. -/
namespace ReleaseNotes.Json

/-- An open array or object, with what stands in front of the value at hand. -/
inductive Frame where
  | item (items : List Value)
  | member (members : List (Text × Value)) (name : Text)

inductive State where
  /-- A value is due. -/
  | value (stack : List Frame)
  /-- A member of an object is due. -/
  | member (stack : List Frame) (members : List (Text × Value))
  /-- The colon behind a name is due. -/
  | colon (stack : List Frame) (members : List (Text × Value)) (name : Text)
  /-- A value has just ended. -/
  | behind (stack : List Frame) (v : Value)

namespace State

/-- Where a value is due. An array may also end there, if it has no items yet. -/
def stepValue (stack : List Frame) : Token → Option State
  | .null => some (.behind stack .null)
  | .bool b => some (.behind stack (.bool b))
  | .number spelling => some (.behind stack (.number spelling))
  | .string text => some (.behind stack (.string text))
  | .mark .openArray => some (.value (.item [] :: stack))
  | .mark .openObject => some (.member stack [])
  | .mark .closeArray =>
    match stack with
    | .item [] :: outer => some (.behind outer (.array []))
    | _ => none
  | .mark _ => none

/-- Where a member is due. An object may also end there, if it has no members yet. -/
def stepMember (stack : List Frame) (members : List (Text × Value)) : Token → Option State
  | .string name => some (.colon stack members name)
  | .mark .closeObject =>
    match members with
    | [] => some (.behind stack (.object []))
    | _ => none
  | _ => none

/-- Behind a value, which goes into the frame around it. -/
def stepBehind (v : Value) : List Frame → Token → Option State
  | .item items :: outer, .mark .comma => some (.value (.item (items ++ [v]) :: outer))
  | .item items :: outer, .mark .closeArray => some (.behind outer (.array (items ++ [v])))
  | .member members name :: outer, .mark .comma => some (.member outer (members ++ [(name, v)]))
  | .member members name :: outer, .mark .closeObject =>
    some (.behind outer (.object (members ++ [(name, v)])))
  | _, _ => none

def step : State → Token → Option State
  | .value stack, token => stepValue stack token
  | .member stack members, token => stepMember stack members token
  | .colon stack members name, .mark .colon => some (.value (.member members name :: stack))
  | .colon .., _ => none
  | .behind stack v, token => stepBehind v stack token

def run (state : State) (tokens : List Token) : Option State :=
  tokens.foldlM step state

end State

/-- The value that a list of tokens is. -/
def build (tokens : List Token) : Option Value :=
  match State.run (.value []) tokens with
  | some (.behind [] v) => some v
  | _ => none

/-- The value that a text is, all of it. -/
def read (text : Text) : Option Value :=
  (scan text).bind build

def itemsInFront (items : List Value) : List Token :=
  items.flatMap fun v => v.tokens ++ [.mark .comma]

def membersInFront (members : List (Text × Value)) : List Token :=
  members.flatMap fun (name, v) => .string name :: .mark .colon :: v.tokens ++ [.mark .comma]

def Frame.tokens : Frame → List Token
  | .item items => .mark .openArray :: itemsInFront items
  | .member members name =>
    .mark .openObject :: membersInFront members ++ [.string name, .mark .colon]

/-- The tokens that lead to the inside of a stack. -/
def stackTokens (stack : List Frame) : List Token :=
  stack.reverse.flatMap Frame.tokens

/-- The tokens that lead to a state. -/
def State.tokens : State → List Token
  | .value stack => stackTokens stack
  | .member stack members => stackTokens stack ++ .mark .openObject :: membersInFront members
  | .colon stack members name =>
    stackTokens stack ++ .mark .openObject :: membersInFront members ++ [.string name]
  | .behind stack v => stackTokens stack ++ v.tokens

@[simp] theorem stackTokens_nil : stackTokens [] = [] := rfl

@[simp] theorem stackTokens_cons (frame : Frame) (stack : List Frame) :
    stackTokens (frame :: stack) = stackTokens stack ++ frame.tokens := by
  simp [stackTokens]

theorem furtherItemTokens_of_ne_nil {items : List Value} (given : items ≠ []) :
    furtherItemTokens items = .mark .comma :: itemTokens items := by
  obtain ⟨v, rest, rfl⟩ := List.exists_cons_of_ne_nil given
  rfl

theorem furtherMemberTokens_of_ne_nil {members : List (Text × Value)} (given : members ≠ []) :
    furtherMemberTokens members = .mark .comma :: memberTokens members := by
  obtain ⟨⟨name, v⟩, rest, rfl⟩ := List.exists_cons_of_ne_nil given
  rfl

theorem itemTokens_append (items : List Value) (v : Value) :
    itemTokens (items ++ [v]) = itemsInFront items ++ v.tokens := by
  induction items with
  | nil => simp [itemTokens, furtherItemTokens, itemsInFront]
  | cons w rest ih =>
    rw [List.cons_append, itemTokens, furtherItemTokens_of_ne_nil (by simp), ih]
    simp [itemsInFront]

theorem memberTokens_append (members : List (Text × Value)) (name : Text) (v : Value) :
    memberTokens (members ++ [(name, v)]) =
      membersInFront members ++ .string name :: .mark .colon :: v.tokens := by
  induction members with
  | nil => simp [memberTokens, furtherMemberTokens, membersInFront]
  | cons member rest ih =>
    obtain ⟨other, w⟩ := member
    rw [List.cons_append, memberTokens, furtherMemberTokens_of_ne_nil (by simp), ih]
    simp [membersInFront]

namespace State

theorem tokens_stepValue {stack : List Frame} {token : Token} {after : State}
    (stepped : stepValue stack token = some after) : after.tokens = stackTokens stack ++ [token] := by
  cases token with
  | null | bool | number | string =>
    obtain rfl := Option.some.inj stepped
    simp [State.tokens, Value.tokens]
  | mark mark =>
    cases mark with
    | openArray | openObject =>
      obtain rfl := Option.some.inj stepped
      simp [State.tokens, Frame.tokens, itemsInFront, membersInFront]
    | closeArray =>
      simp only [stepValue] at stepped
      split at stepped
      · obtain rfl := Option.some.inj stepped
        simp [State.tokens, Frame.tokens, Value.tokens, itemTokens, itemsInFront]
      · contradiction
    | closeObject | colon | comma => contradiction

theorem tokens_stepMember {stack : List Frame} {members : List (Text × Value)} {token : Token}
    {after : State} (stepped : stepMember stack members token = some after) :
    after.tokens = (State.member stack members).tokens ++ [token] := by
  unfold stepMember at stepped
  split at stepped
  · obtain rfl := Option.some.inj stepped
    simp [State.tokens]
  · split at stepped
    · obtain rfl := Option.some.inj stepped
      simp [State.tokens, Value.tokens, memberTokens, membersInFront]
    · contradiction
  · contradiction

theorem tokens_stepBehind {stack : List Frame} {v : Value} {token : Token} {after : State}
    (stepped : stepBehind v stack token = some after) :
    after.tokens = (State.behind stack v).tokens ++ [token] := by
  unfold stepBehind at stepped
  split at stepped
  -- The last case is that of the tokens that are refused here.
  case h_5 => contradiction
  all_goals
    obtain rfl := Option.some.inj stepped
    simp [State.tokens, Frame.tokens, Value.tokens, itemTokens_append, memberTokens_append,
      itemsInFront, membersInFront]

/-- A step adds its token to those that lead to the state. -/
theorem tokens_step {before after : State} {token : Token} (stepped : step before token = some after) :
    after.tokens = before.tokens ++ [token] := by
  unfold step at stepped
  split at stepped
  · exact tokens_stepValue stepped
  · exact tokens_stepMember stepped
  · obtain rfl := Option.some.inj stepped
    simp [State.tokens, Frame.tokens]
  · contradiction
  · exact tokens_stepBehind stepped

theorem run_cons (state : State) (token : Token) (rest : List Token) :
    run state (token :: rest) = (step state token).bind (run · rest) :=
  List.foldlM_cons

theorem tokens_run {before after : State} {tokens : List Token}
    (ran : run before tokens = some after) : after.tokens = before.tokens ++ tokens := by
  induction tokens generalizing before with
  | nil =>
    obtain rfl := Option.some.inj ran
    simp
  | cons token rest ih =>
    rw [run_cons] at ran
    obtain ⟨between, stepped, rest⟩ := Option.bind_eq_some_iff.mp ran
    rw [ih rest, tokens_step stepped]
    simp

end State

theorem tokens_of_build {tokens : List Token} {v : Value} (built : build tokens = some v) :
    v.tokens = tokens := by
  unfold build at built
  split at built
  · rename_i ran
    obtain rfl := Option.some.inj built
    have whole := State.tokens_run ran
    simpa [State.tokens] using whole
  · contradiction

mutual

/-- The tokens of a value take a reader from where a value is due to behind that value. -/
theorem run_tokens (v : Value) (stack : List Frame) (rest : List Token) :
    State.run (.value stack) (v.tokens ++ rest) = State.run (.behind stack v) rest := by
  match v with
  | .null | .bool b | .number spelling | .string text => rfl
  | .array [] => rfl
  | .object [] => rfl
  | .array (first :: more) =>
    -- The bracket puts a frame on the stack, and the first item is read inside it.
    have opened : State.run (.value stack) ((Value.array (first :: more)).tokens ++ rest) =
        State.run (.value (.item [] :: stack))
          (first.tokens ++ (furtherItemTokens more ++ .mark .closeArray :: rest)) := by
      simp only [Value.tokens, itemTokens, List.cons_append, List.append_assoc, List.nil_append,
        State.run_cons]
      rfl
    rw [opened, run_tokens first, run_furtherItemTokens [] first more]
    rfl
  | .object ((name, first) :: more) =>
    have opened : State.run (.value stack) ((Value.object ((name, first) :: more)).tokens ++ rest) =
        State.run (.value (.member [] name :: stack))
          (first.tokens ++ (furtherMemberTokens more ++ .mark .closeObject :: rest)) := by
      simp only [Value.tokens, memberTokens, List.cons_append, List.append_assoc, List.nil_append,
        State.run_cons]
      rfl
    rw [opened, run_tokens first, run_furtherMemberTokens [] name first more]
    rfl

theorem run_furtherItemTokens (items : List Value) (v : Value) (more : List Value)
    (stack : List Frame) (rest : List Token) :
    State.run (.behind (.item items :: stack) v)
        (furtherItemTokens more ++ .mark .closeArray :: rest) =
      State.run (.behind stack (.array (items ++ v :: more))) rest := by
  match more with
  | [] => rfl
  | next :: more =>
    -- The comma moves the item at hand into the frame, and the next one is due.
    have moved : State.run (.behind (.item items :: stack) v)
        (furtherItemTokens (next :: more) ++ .mark .closeArray :: rest) =
        State.run (.value (.item (items ++ [v]) :: stack))
          (next.tokens ++ (furtherItemTokens more ++ .mark .closeArray :: rest)) := by
      simp only [furtherItemTokens, List.cons_append, List.append_assoc, State.run_cons]
      rfl
    rw [moved, run_tokens next, run_furtherItemTokens (items ++ [v]) next more]
    simp

theorem run_furtherMemberTokens (members : List (Text × Value)) (name : Text) (v : Value)
    (more : List (Text × Value)) (stack : List Frame) (rest : List Token) :
    State.run (.behind (.member members name :: stack) v)
        (furtherMemberTokens more ++ .mark .closeObject :: rest) =
      State.run (.behind stack (.object (members ++ (name, v) :: more))) rest := by
  match more with
  | [] => rfl
  | (other, next) :: more =>
    have moved : State.run (.behind (.member members name :: stack) v)
        (furtherMemberTokens ((other, next) :: more) ++ .mark .closeObject :: rest) =
        State.run (.value (.member (members ++ [(name, v)]) other :: stack))
          (next.tokens ++ (furtherMemberTokens more ++ .mark .closeObject :: rest)) := by
      simp only [furtherMemberTokens, List.cons_append, List.append_assoc, State.run_cons]
      rfl
    rw [moved, run_tokens next, run_furtherMemberTokens (members ++ [(name, v)]) other next more]
    simp

end

theorem run_all_tokens (v : Value) : State.run (.value []) v.tokens = some (.behind [] v) := by
  have ran := run_tokens v [] []
  rwa [List.append_nil] at ran

theorem build_tokens (v : Value) : build v.tokens = some v := by
  rw [build, run_all_tokens]

theorem build_eq_some_iff {tokens : List Token} {v : Value} :
    build tokens = some v ↔ tokens = v.tokens := by
  constructor
  · intro built
    exact (tokens_of_build built).symm
  · rintro rfl
    exact build_tokens v

namespace State

theorem step_behind_number (stack : List Frame) (v : Value) (spelling : Text) :
    step (.behind stack v) (.number spelling) = none := by
  cases stack with
  | nil => rfl
  | cons frame outer => cases frame <;> rfl

theorem step_number {before after : State} {spelling : Text}
    (stepped : step before (.number spelling) = some after) :
    ∃ stack, after = .behind stack (.number spelling) := by
  cases before with
  | value stack => exact ⟨stack, (Option.some.inj stepped).symm⟩
  | member | colon => contradiction
  | behind stack v =>
    rw [step_behind_number] at stepped
    contradiction

/-- Only a mark is read behind a value, so no two numbers are next to each other. -/
theorem apart_of_run {before after : State} {tokens : List Token}
    (ran : run before tokens = some after) : tokens.IsChain Apart := by
  induction tokens generalizing before with
  | nil => exact .nil
  | cons token rest ih =>
    rw [run_cons] at ran
    obtain ⟨between, stepped, ranOn⟩ := Option.bind_eq_some_iff.mp ran
    apply List.isChain_cons.mpr
    refine ⟨fun next first => ?_, ih ranOn⟩
    obtain ⟨more, rfl⟩ := List.head?_eq_some_iff.mp first
    unfold Apart
    split
    · obtain ⟨stack, rfl⟩ := step_number stepped
      rw [run_cons, step_behind_number] at ranOn
      contradiction
    · trivial

end State

theorem apart_tokens (v : Value) : v.tokens.IsChain Apart :=
  State.apart_of_run (run_all_tokens v)

/-- The reader reads what the grammar says, and all of it. -/
theorem read_eq_some_iff {text : Text} {v : Value} : read text = some v ↔ v.WrittenAs text := by
  rw [read, Option.bind_eq_some_iff]
  constructor
  · rintro ⟨tokens, scanned, built⟩
    obtain rfl := build_eq_some_iff.mp built
    exact scan_sound scanned
  · intro written
    exact ⟨v.tokens, scan_complete written (apart_tokens v), build_tokens v⟩

theorem Value.WrittenAs.unique {v w : Value} {text : Text} (first : v.WrittenAs text)
    (second : w.WrittenAs text) : v = w := by
  have read := read_eq_some_iff.mpr first
  rw [read_eq_some_iff.mpr second] at read
  exact (Option.some.inj read).symm

end ReleaseNotes.Json
