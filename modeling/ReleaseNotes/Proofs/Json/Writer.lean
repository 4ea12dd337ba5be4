import ReleaseNotes.Json.Layout
import ReleaseNotes.Proofs.Json.Token

/-! What is written for a value are its tokens, each in one spelling, with the gaps of the layout between them.
So it is JSON text for the value in every layout that puts nothing but padding around the marks. -/
namespace ReleaseNotes.Json

namespace Written

theorem behind {gap text : Text} {tokens : List Token} (padding : Padding gap)
    (written : Written tokens text) : Written tokens (gap ++ text) := by
  cases written with
  | nil more =>
    exact .nil fun c member => (List.mem_append.mp member).elim (padding c) (more c)
  | @cons further spelling rest _ _ more spelled written =>
    rw [← List.append_assoc]
    exact .cons (fun c member => (List.mem_append.mp member).elim (padding c) (more c)) spelled written

theorem empty : Written [] [] :=
  .nil (by simp [Padding])

theorem token {token : Token} {spelling text : Text} {tokens : List Token}
    (spelled : TokenSpelling token spelling) (written : Written tokens text) :
    Written (token :: tokens) (spelling ++ text) := by
  have none : Padding [] := by simp [Padding]
  exact .cons none spelled written

theorem append {front back : List Token} {text more : Text} (first : Written front text)
    (second : Written back more) : Written (front ++ back) (text ++ more) := by
  induction first with
  | nil padding => exact second.behind padding
  | cons padding spelled _ ih =>
    rw [List.append_assoc, List.append_assoc]
    exact .cons padding spelled ih

end Written

theorem spelling_of_shortEscape {c letter : Char} (listed : shortEscapes.lookup c = some letter) :
    CharSpelling c ['\\', letter] := by
  have back : ∀ pair ∈ shortEscapes, letterEscapes.lookup pair.2 = some pair.1 := by decide
  obtain ⟨before, after, whole, -⟩ := List.lookup_eq_some_iff.mp listed
  exact .letter (back (c, letter) (by simp [whole]))

theorem codeUnit?_twoHex {n : Nat} (small : n < 0x20) :
    codeUnit? ('0' :: '0' :: Text.twoHex n) = some n := by
  have all : ∀ n < 0x20, codeUnit? ('0' :: '0' :: Text.twoHex n) = some n := by decide
  exact all n small

theorem spelling_escape (c : Char) : CharSpelling c (escape c) := by
  rcases escape_cases c with ⟨letter, listed, same⟩ | ⟨control, same⟩ | ⟨printed, unquoted, unslashed, same⟩
  all_goals rw [same]
  · exact spelling_of_shortEscape listed
  · have unit := CharSpelling.unit (codeUnit?_twoHex control)
      (by simp [isHighSurrogate]; omega) (by simp [isLowSurrogate]; omega)
    rwa [Char.ofNat_toNat] at unit
  · exact .plain printed unquoted unslashed

theorem quoting_escape (text : Text) : Quoting text (text.flatMap escape) := by
  induction text with
  | nil => exact .nil
  | cons c rest ih => exact .cons (spelling_escape c) ih

theorem spelling_writeString (text : Text) : TokenSpelling (.string text) (writeString text) :=
  .string (quoting_escape text)

structure Layout.Pads (layout : Layout) : Prop where
  edge : ∀ depth, Padding (layout.edge depth)
  item : ∀ depth, Padding (layout.item depth)
  value : Padding layout.value

theorem pads_spaced : Layout.spaced.Pads where
  edge _ := by simp [Layout.spaced, Padding]
  item _ := by simp [Layout.spaced, Padding, isPad]
  value := by simp [Layout.spaced, Padding, isPad]

theorem padding_newLine (depth : Nat) : Padding (Layout.newLine depth) := by
  intro c member
  rcases List.mem_cons.mp member with rfl | space
  · rfl
  · rw [List.eq_of_mem_replicate space]
    rfl

theorem pads_indented : Layout.indented.Pads where
  edge := padding_newLine
  item := padding_newLine
  value := by simp [Layout.indented, Padding, isPad]

/-- A list of tokens whose numbers are all spelled as numbers are. -/
def NumbersSpelled (tokens : List Token) : Prop :=
  ∀ spelling, Token.number spelling ∈ tokens → isNumber spelling = true

@[simp] theorem numbersSpelled_nil : NumbersSpelled [] := by
  simp [NumbersSpelled]

@[simp] theorem numbersSpelled_append {front back : List Token} :
    NumbersSpelled (front ++ back) ↔ NumbersSpelled front ∧ NumbersSpelled back := by
  simp only [NumbersSpelled, List.mem_append, or_imp, forall_and]

theorem numbersSpelled_cons {token : Token} {rest : List Token} :
    NumbersSpelled (token :: rest) ↔ NumbersSpelled [token] ∧ NumbersSpelled rest := by
  rw [← numbersSpelled_append, List.singleton_append]

theorem numbersSpelled_of_mem {tokens : List Token} (numbers : NumbersSpelled tokens) {token : Token}
    (member : token ∈ tokens) : NumbersSpelled [token] := by
  intro spelling same
  rw [List.mem_singleton] at same
  exact numbers spelling (same ▸ member)

@[simp] theorem numbersSpelled_mark {mark : Mark} {rest : List Token} :
    NumbersSpelled (.mark mark :: rest) ↔ NumbersSpelled rest := by
  simp [NumbersSpelled]

@[simp] theorem numbersSpelled_string {text : Text} {rest : List Token} :
    NumbersSpelled (.string text :: rest) ↔ NumbersSpelled rest := by
  simp [NumbersSpelled]

theorem numbersSpelled_array {items : List Value} :
    NumbersSpelled (Value.array items).tokens ↔ ∀ v ∈ items, NumbersSpelled v.tokens := by
  have further : NumbersSpelled (furtherItemTokens items) ↔ ∀ v ∈ items, NumbersSpelled v.tokens := by
    induction items with
    | nil => simp [furtherItemTokens]
    | cons v rest ih => simp [furtherItemTokens, ih]
  rw [← further]
  cases items <;> simp [Value.tokens, itemTokens, furtherItemTokens]

theorem numbersSpelled_object {members : List (Text × Value)} :
    NumbersSpelled (Value.object members).tokens ↔
      ∀ member ∈ members, NumbersSpelled member.2.tokens := by
  have further : NumbersSpelled (furtherMemberTokens members) ↔
      ∀ member ∈ members, NumbersSpelled member.2.tokens := by
    induction members with
    | nil => simp [furtherMemberTokens]
    | cons member rest ih =>
      obtain ⟨name, v⟩ := member
      simp [furtherMemberTokens, ih]
  rw [← further]
  cases members <;> simp [Value.tokens, memberTokens, furtherMemberTokens]

/-- The one spelling of a token that is written. -/
def Token.text : Token → Text
  | .mark m => [m.char]
  | .null => "null".toList
  | .bool true => "true".toList
  | .bool false => "false".toList
  | .number spelling => spelling
  | .string text => writeString text

/-- The texts that a layout puts around marks. -/
inductive Layout.IsGap (layout : Layout) : Text → Prop where
  | edge (depth : Nat) : IsGap layout (layout.edge depth)
  | item (depth : Nat) : IsGap layout (layout.item depth)
  | value : IsGap layout layout.value

/-- A text that is a list of tokens as they are written, with gaps of the layout anywhere between them. -/
inductive Laid (layout : Layout) : List Token → Text → Prop where
  | empty : Laid layout [] []
  | gap {gap text : Text} {tokens : List Token} : layout.IsGap gap → Laid layout tokens text →
      Laid layout tokens (gap ++ text)
  | token (token : Token) {text : Text} {tokens : List Token} : Laid layout tokens text →
      Laid layout (token :: tokens) (token.text ++ text)

namespace Laid

variable {layout : Layout}

theorem single (token : Token) : Laid layout [token] token.text := by
  rw [← List.append_nil token.text]
  exact .token token .empty

theorem append {front back : List Token} {text more : Text} (first : Laid layout front text)
    (second : Laid layout back more) : Laid layout (front ++ back) (text ++ more) := by
  induction first with
  | empty => exact second
  | gap isGap _ ih =>
    rw [List.append_assoc]
    exact .gap isGap ih
  | token token _ ih =>
    rw [List.append_assoc]
    exact .token token ih

theorem name (name : Text) {text : Text} {tokens : List Token} (laid : Laid layout tokens text) :
    Laid layout (.string name :: .mark .colon :: tokens)
      (writeString name ++ ':' :: (layout.value ++ text)) :=
  .token (.string name) (.token (.mark .colon) (.gap .value laid))

theorem between (opening closing : Mark) (depth : Nat) {text : Text} {tokens : List Token}
    (laid : Laid layout tokens text) :
    Laid layout (.mark opening :: (tokens ++ [.mark closing]))
      (opening.char :: (layout.edge (depth + 1) ++ (text ++ (layout.edge depth ++ [closing.char])))) := by
  have inside := laid.append (.gap (.edge depth) (.single (.mark closing)))
  exact .token (.mark opening) (.gap (.edge (depth + 1)) inside)

theorem further (depth : Nat) {text : Text} {tokens : List Token} (laid : Laid layout tokens text) :
    Laid layout (.mark .comma :: tokens) (',' :: (layout.item depth ++ text)) :=
  .token (.mark .comma) (.gap (.item depth) laid)

end Laid

mutual

/-- What is written for a value are its tokens. -/
theorem laid_write (layout : Layout) (depth : Nat) (v : Value) :
    Laid layout v.tokens (write layout depth v) := by
  match v with
  | .null => exact .single .null
  | .bool true => exact .single (.bool true)
  | .bool false => exact .single (.bool false)
  | .number spelling => exact .single (.number spelling)
  | .string text => exact .single (.string text)
  | .array [] => exact .token (.mark .openArray) (.single (.mark .closeArray))
  | .object [] => exact .token (.mark .openObject) (.single (.mark .closeObject))
  | .array (w :: rest) =>
    have items := (laid_write layout (depth + 1) w).append (laid_writeItems layout (depth + 1) rest)
    simpa [Value.tokens, itemTokens, write, Mark.char] using items.between .openArray .closeArray depth
  | .object ((name, w) :: rest) =>
    have first := laid_write layout (depth + 1) w
    have members := (first.append (laid_writeMembers layout (depth + 1) rest)).name name
    simpa [Value.tokens, memberTokens, write, Mark.char] using members.between .openObject .closeObject depth

theorem laid_writeItems (layout : Layout) (depth : Nat) (items : List Value) :
    Laid layout (furtherItemTokens items) (writeItems layout depth items) := by
  match items with
  | [] => exact .empty
  | v :: rest =>
    have items := (laid_write layout depth v).append (laid_writeItems layout depth rest)
    simpa [furtherItemTokens, writeItems] using items.further depth

theorem laid_writeMembers (layout : Layout) (depth : Nat) (members : List (Text × Value)) :
    Laid layout (furtherMemberTokens members) (writeMembers layout depth members) := by
  match members with
  | [] => exact .empty
  | (name, v) :: rest =>
    have members := ((laid_write layout depth v).append (laid_writeMembers layout depth rest)).name name
    simpa [furtherMemberTokens, writeMembers] using members.further depth

end

theorem Layout.Pads.of_isGap {layout : Layout} (pads : layout.Pads) {gap : Text} (isGap : layout.IsGap gap) :
    Padding gap := by
  cases isGap with
  | edge depth => exact pads.edge depth
  | item depth => exact pads.item depth
  | value => exact pads.value

theorem spelling_text {token : Token} (spelled : NumbersSpelled [token]) : TokenSpelling token token.text := by
  match token with
  | .mark mark => exact .mark mark
  | .null => exact .null
  | .bool true => exact .true
  | .bool false => exact .false
  | .number spelling => exact .number (spelled spelling (by simp))
  | .string text => exact spelling_writeString text

theorem Laid.written {layout : Layout} (pads : layout.Pads) {tokens : List Token} {text : Text}
    (laid : Laid layout tokens text) (numbers : NumbersSpelled tokens) : Written tokens text := by
  induction laid with
  | empty => exact .empty
  | gap isGap _ ih => exact (ih numbers).behind (pads.of_isGap isGap)
  | token _ _ ih =>
    obtain ⟨first, rest⟩ := numbersSpelled_cons.mp numbers
    exact .token (spelling_text first) (ih rest)

/-- What is written for a value is JSON text for it. -/
theorem written_write {layout : Layout} (pads : layout.Pads) (depth : Nat) (v : Value)
    (numbers : NumbersSpelled v.tokens) : v.WrittenAs (write layout depth v) :=
  (laid_write layout depth v).written pads numbers

end ReleaseNotes.Json
