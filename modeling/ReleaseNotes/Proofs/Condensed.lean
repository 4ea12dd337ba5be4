import ReleaseNotes.Proofs.RoundTrip

/-! The text of a value apart from its layout. Without the blanks outside of its strings it is the same in every
layout of spaces and line feeds, and its strings stand in it as they are written. -/
namespace ReleaseNotes

namespace Json

/-- Where a character of a JSON text stands: outside of strings, inside one, or inside one behind a
backslash. -/
inductive Place where
  | outside | inside | escaped
  deriving DecidableEq, Repr

def Place.next : Place → Char → Place
  | .outside, c => if c = '"' then .inside else .outside
  | .inside, c => if c = '"' then .outside else if c = '\\' then .escaped else .inside
  | .escaped, _ => .inside

/-- The characters of a text that are wanted where they stand. -/
def pick (wanted : Place → Char → Bool) : Place → Text → Text
  | _, [] => []
  | place, c :: rest =>
    if wanted place c then c :: pick wanted (place.next c) rest else pick wanted (place.next c) rest

/-- The text without the spaces and line feeds that stand outside of strings. -/
def condensed (text : Text) : Text :=
  pick (fun place c => place != .outside || !(c == ' ' || c == '\n')) .outside text

/-- The strings of a text with their quotes, one behind the other. -/
def stringParts (text : Text) : Text :=
  pick (fun place c => place != .outside || c == '"') .outside text

example : condensed "[ \" a\\\"\n\", \n1]".toList = "[\" a\\\"\n\",1]".toList ∧
    stringParts "[ \" a\\\"\n\", \n1]".toList = "\" a\\\"\n\"".toList := by decide

/-- Whoever picks so takes strings as a whole. -/
def WantsStrings (wanted : Place → Char → Bool) : Prop :=
  ∀ place c, place ≠ .outside ∨ c = '"' → wanted place c = true

theorem wantsStrings_or {others : Char → Bool} (quote : others '"' = true) :
    WantsStrings fun place c => place != .outside || others c := by
  rintro place c (within | rfl)
  · simp [within]
  · simp [quote]

section Picking

variable {wanted : Place → Char → Bool}

/-- An escape neither ends its string nor leaves a part of itself behind. -/
theorem pick_escape (strings : WantsStrings wanted) (c : Char) (rest : Text) :
    pick wanted .inside (escape c ++ rest) = escape c ++ pick wanted .inside rest := by
  have inside : ∀ d, wanted .inside d = true := fun d => strings .inside d (.inl (by decide))
  have escaped : ∀ d, wanted .escaped d = true := fun d => strings .escaped d (.inl (by decide))
  rcases escape_cases c with ⟨letter, -, same⟩ | ⟨control, same⟩ | ⟨-, unquoted, unslashed, same⟩
  · simp [same, pick, Place.next, inside, escaped]
  · have all : ∀ n < 0x20, (Text.twoHex n).all (fun d => d != '"' && d != '\\') = true := by decide
    have digits : ∀ d ∈ Text.twoHex c.toNat, d ≠ '"' ∧ d ≠ '\\' := by
      intro d member
      have each := List.all_eq_true.mp (all _ control) d member
      simpa using each
    have opening : "\\u00".toList = ['\\', 'u', '0', '0'] := by decide
    simp only [Text.twoHex, List.mem_cons, List.not_mem_nil, or_false, forall_eq_or_imp, forall_eq] at digits
    obtain ⟨⟨unquoted, unslashed⟩, unquoted', unslashed'⟩ := digits
    simp [same, opening, Text.twoHex, pick, Place.next, inside, escaped, unquoted, unslashed, unquoted', unslashed']
  · simp [same, pick, Place.next, inside, unquoted, unslashed]

theorem pick_escapes (strings : WantsStrings wanted) (text rest : Text) :
    pick wanted .inside (text.flatMap escape ++ rest) = text.flatMap escape ++ pick wanted .inside rest := by
  induction text with
  | nil => rfl
  | cons c text ih => rw [List.flatMap_cons, List.append_assoc, pick_escape strings, ih, List.append_assoc]

theorem pick_writeString (strings : WantsStrings wanted) (text rest : Text) :
    pick wanted .outside (writeString text ++ rest) = writeString text ++ pick wanted .outside rest := by
  have opening : wanted .outside '"' = true := strings .outside '"' (.inr rfl)
  have closing : wanted .inside '"' = true := strings .inside '"' (.inr rfl)
  have inner := pick_escapes strings text ('"' :: rest)
  simp only [writeString, List.cons_append, List.append_assoc, List.nil_append]
  rw [pick, if_pos opening]
  simp [Place.next, inner, pick, closing]

theorem pick_of_unquoted {front : Text} (unquoted : '"' ∉ front) (rest : Text) :
    pick wanted .outside (front ++ rest) = front.filter (wanted .outside) ++ pick wanted .outside rest := by
  induction front with
  | nil => rfl
  | cons c front ih =>
    rw [List.mem_cons, not_or] at unquoted
    obtain ⟨first, others⟩ := unquoted
    simp only [List.cons_append, pick, Place.next, if_neg (Ne.symm first), ih others, List.filter_cons]
    split <;> rfl

end Picking

def Token.picked (wanted : Place → Char → Bool) : Token → Text
  | .string text => writeString text
  | token => token.text.filter (wanted .outside)

def Token.string? : Token → Option Text
  | .string text => some text
  | _ => none

/-- A token that is no string has none of the marks of one in its text, and no blanks. -/
structure Token.Plain (token : Token) : Prop where
  noString : token.string? = none
  picked : ∀ wanted, token.picked wanted = token.text.filter (wanted .outside)
  solid : ∀ c ∈ token.text, c ∉ ['"', ' ', '\n']

theorem Token.string_or_plain {token : Token} (spelled : NumbersSpelled [token]) :
    (∃ text, token = .string text) ∨ token.Plain := by
  match token with
  | .string text => exact .inl ⟨text, rfl⟩
  | .mark m => exact .inr ⟨rfl, fun _ => rfl, by cases m <;> simp [text, Mark.char]⟩
  | .null => exact .inr ⟨rfl, fun _ => rfl, by simp [text]⟩
  | .bool true => exact .inr ⟨rfl, fun _ => rfl, by simp [text]⟩
  | .bool false => exact .inr ⟨rfl, fun _ => rfl, by simp [text]⟩
  | .number spelling =>
    refine .inr ⟨rfl, fun _ => rfl, fun c member marked => ?_⟩
    have inNumber := isNumberChar_of_isNumber (spelled spelling (by simp)) c member
    simp only [List.mem_cons, List.not_mem_nil, or_false] at marked
    rcases marked with rfl | rfl | rfl <;> contradiction

theorem pick_token {wanted : Place → Char → Bool} (strings : WantsStrings wanted) {token : Token}
    (spelled : NumbersSpelled [token]) (rest : Text) :
    pick wanted .outside (token.text ++ rest) = token.picked wanted ++ pick wanted .outside rest := by
  rcases token.string_or_plain spelled with ⟨text, rfl⟩ | plain
  · exact pick_writeString strings text rest
  · have unquoted : '"' ∉ token.text := fun member => plain.solid '"' member (by simp)
    rw [plain.picked, pick_of_unquoted unquoted]

def Layout.Blank (layout : Layout) : Prop :=
  ∀ gap, layout.IsGap gap → ∀ c ∈ gap, c ∈ [' ', '\n']

/-- Where gaps are not wanted, what is picked of a text is picked of its tokens. -/
theorem Laid.pick_eq {wanted : Place → Char → Bool} (strings : WantsStrings wanted) {layout : Layout}
    (blank : layout.Blank) (passed : ∀ c ∈ [' ', '\n'], wanted .outside c = false) {tokens : List Token}
    {text : Text} (laid : Laid layout tokens text) (numbers : NumbersSpelled tokens) :
    pick wanted .outside text = tokens.flatMap (Token.picked wanted) := by
  induction laid with
  | empty => rfl
  | @gap gap text _ isGap _ ih =>
    have unquoted : '"' ∉ gap := fun member => absurd (blank gap isGap '"' member) (by decide)
    have nothing : gap.filter (wanted .outside) = [] := by
      apply List.filter_eq_nil_iff.mpr
      intro c member
      rw [passed c (blank gap isGap c member)]
      exact Bool.false_ne_true
    rw [pick_of_unquoted unquoted, nothing, List.nil_append, ih numbers]
  | token _ _ ih =>
    obtain ⟨first, rest⟩ := numbersSpelled_cons.mp numbers
    rw [pick_token strings first, ih rest, List.flatMap_cons]

theorem Laid.condensed_eq {layout : Layout} (blank : layout.Blank) {tokens : List Token} {text : Text}
    (laid : Laid layout tokens text) (numbers : NumbersSpelled tokens) :
    condensed text = tokens.flatMap Token.text := by
  have strings : WantsStrings fun place c => place != .outside || !(c == ' ' || c == '\n') :=
    wantsStrings_or rfl
  rw [condensed, laid.pick_eq strings blank (by simp) numbers]
  apply List.flatMap_congr
  intro token member
  rcases token.string_or_plain (numbersSpelled_of_mem numbers member) with ⟨text, rfl⟩ | plain
  · rfl
  · rw [plain.picked, List.filter_eq_self]
    intro c inToken
    have solid := plain.solid c inToken
    simp_all

theorem Laid.stringParts_eq {layout : Layout} (blank : layout.Blank) {tokens : List Token} {text : Text}
    (laid : Laid layout tokens text) (numbers : NumbersSpelled tokens) :
    stringParts text = (tokens.filterMap Token.string?).flatMap writeString := by
  have strings : WantsStrings fun place c => place != .outside || c == '"' := wantsStrings_or rfl
  rw [stringParts, laid.pick_eq strings blank (by simp) numbers, List.filterMap_eq_flatMap_toList,
    List.flatMap_assoc]
  apply List.flatMap_congr
  intro token member
  rcases token.string_or_plain (numbersSpelled_of_mem numbers member) with ⟨text, rfl⟩ | plain
  · exact (List.flatMap_singleton writeString text).symm
  · rw [plain.picked, plain.noString, List.filter_eq_nil_iff.mpr]
    · rfl
    · intro c inToken
      have solid := plain.solid c inToken
      simp_all

theorem Laid.eq_flatMap {tokens : List Token} {text : Text} (laid : Laid .minimal tokens text) :
    text = tokens.flatMap Token.text := by
  induction laid with
  | empty => rfl
  | gap isGap _ ih => cases isGap <;> exact ih
  | token token _ ih => rw [List.flatMap_cons, ← ih]

theorem write_minimal (depth : Nat) (v : Value) : write .minimal depth v = v.tokens.flatMap Token.text :=
  (laid_write .minimal depth v).eq_flatMap

theorem write_minimal_depth (depth : Nat) (v : Value) : write .minimal depth v = write .minimal 0 v := by
  rw [write_minimal, write_minimal]

theorem writeItems_minimal (depth : Nat) (v : Value) (rest : List Value) :
    write .minimal 0 v ++ writeItems .minimal depth rest =
      [','].intercalate ((v :: rest).map (write .minimal 0)) := by
  induction rest generalizing v with
  | nil => simp [writeItems]
  | cons next rest ih =>
    rw [List.map_cons, List.map_cons, List.intercalate_cons_cons, ← List.map_cons, ← ih, writeItems,
      write_minimal_depth depth]
    simp

def condensedMember (member : Text × Value) : Text :=
  writeString member.1 ++ ':' :: write .minimal 0 member.2

theorem writeMembers_minimal (depth : Nat) (member : Text × Value) (rest : List (Text × Value)) :
    condensedMember member ++ writeMembers .minimal depth rest =
      [','].intercalate ((member :: rest).map condensedMember) := by
  induction rest generalizing member with
  | nil => simp [writeMembers]
  | cons next rest ih =>
    rw [List.map_cons, List.map_cons, List.intercalate_cons_cons, ← List.map_cons, ← ih, writeMembers,
      write_minimal_depth depth]
    simp [condensedMember]

theorem write_minimal_array (items : List Value) :
    write .minimal 0 (.array items) = '[' :: [','].intercalate (items.map (write .minimal 0)) ++ [']'] := by
  cases items with
  | nil => simp [write]
  | cons v rest =>
    rw [← writeItems_minimal 1, write, write_minimal_depth]
    simp

theorem write_minimal_object (members : List (Text × Value)) :
    write .minimal 0 (.object members) =
      '\x7b' :: [','].intercalate (members.map condensedMember) ++ ['\x7d'] := by
  cases members with
  | nil => simp [write]
  | cons member rest =>
    rw [← writeMembers_minimal 1, write, write_minimal_depth]
    simp [condensedMember]

/-- The strings of a value in order, names of members included. -/
def Value.strings (v : Value) : List Text :=
  v.tokens.filterMap Token.string?

@[simp] theorem filterMap_string?_mark (mark : Mark) (rest : List Token) :
    (Token.mark mark :: rest).filterMap Token.string? = rest.filterMap Token.string? := rfl

@[simp] theorem filterMap_string?_string (text : Text) (rest : List Token) :
    (Token.string text :: rest).filterMap Token.string? = text :: rest.filterMap Token.string? := rfl

theorem strings_array (items : List Value) : (Value.array items).strings = items.flatMap Value.strings := by
  have further : (furtherItemTokens items).filterMap Token.string? = items.flatMap Value.strings := by
    induction items with
    | nil => rfl
    | cons v rest ih => simp [furtherItemTokens, Value.strings, ih]
  rw [← further]
  cases items <;> simp [Value.strings, Value.tokens, itemTokens, furtherItemTokens]

theorem strings_object (members : List (Text × Value)) :
    (Value.object members).strings = members.flatMap fun member => member.1 :: member.2.strings := by
  have further : (furtherMemberTokens members).filterMap Token.string? =
      members.flatMap fun member => member.1 :: member.2.strings := by
    induction members with
    | nil => rfl
    | cons member rest ih =>
      obtain ⟨name, v⟩ := member
      simp [furtherMemberTokens, Value.strings, ih]
  rw [← further]
  cases members <;> simp [Value.strings, Value.tokens, memberTokens, furtherMemberTokens]

@[simp] theorem strings_string (text : Text) : (Value.string text).strings = [text] := rfl

theorem blank_spaced : Layout.spaced.Blank := by
  intro gap isGap
  cases isGap <;> simp [Layout.spaced]

theorem blank_indented : Layout.indented.Blank := by
  have line : ∀ depth, ∀ c ∈ Layout.newLine depth, c ∈ [' ', '\n'] := by
    intro depth c member
    rcases List.mem_cons.mp member with rfl | space
    · simp
    · simp [List.eq_of_mem_replicate space]
  intro gap isGap
  cases isGap with
  | edge depth => exact line depth
  | item depth => exact line depth
  | value => simp [Layout.indented]

end Json

open Json

theorem strings_textList (texts : List Text) : (textList texts).strings = texts := by
  rw [textList, strings_array, List.flatMap_map]
  exact List.flatMap_singleton' texts

theorem write_minimal_textList (texts : List Text) :
    Json.write .minimal 0 (textList texts) = '[' :: [','].intercalate (texts.map writeString) ++ [']'] := by
  rw [textList, write_minimal_array, List.map_map]
  rfl

theorem Sections.write_minimal_toValue (sections : Sections) :
    Json.write .minimal 0 sections.toValue = '\x7b' :: [','].intercalate
      ([("Added", Section.added), ("Changed", .changed), ("Deprecated", .deprecated), ("Removed", .removed),
        ("Fixed", .fixed), ("Security", .security), ("Other", .other)].map fun (name, s) =>
          '"' :: name.toList ++ "\":[".toList ++
            [','].intercalate ((sections.get s).map writeString) ++ [']']) ++ ['\x7d'] := by
  have titles : Section.all.map (fun s => writeString s.title) =
      ["Added", "Changed", "Deprecated", "Removed", "Fixed", "Security", "Other"].map
        fun name => '"' :: name.toList ++ ['"'] := by decide
  simp only [Section.all, List.map_cons, List.map_nil, List.cons.injEq, and_true] at titles
  rw [toValue, write_minimal_object, toList]
  simp only [Section.all, List.map_cons, List.map_nil, condensedMember, write_minimal_textList, titles]
  simp

namespace Document

variable (document : Document)

/-- The strings of a document in order: each field behind its name, and the entries behind their section. -/
def strings : List Text :=
  ["version".toList, document.version, "tag".toList, document.tag, "date".toList, document.date,
    "source_repo".toList, document.sourceRepo, "keep_a_changelog".toList] ++
  Section.all.flatMap fun s => s.title :: document.changelog.get s

theorem strings_toValue : document.toValue.strings = document.strings := by
  have changelog : document.changelog.toValue.strings =
      Section.all.flatMap fun s => s.title :: document.changelog.get s := by
    rw [Sections.toValue, strings_object, List.flatMap_map, Sections.toList, List.flatMap_map]
    simp only [strings_textList]
  rw [toValue, strings_object, strings]
  simp [changelog]

theorem exists_laid_render (style : Style) :
    ∃ layout : Layout, layout.Blank ∧ Laid layout document.toValue.tokens (document.render style) := by
  cases style with
  | compact => exact ⟨.spaced, blank_spaced, laid_write .spaced 0 document.toValue⟩
  | pretty =>
    have lineFeed : Laid .indented [] ['\n'] := .gap (.edge 0) .empty
    have laid := (laid_write .indented 0 document.toValue).append lineFeed
    rw [List.append_nil] at laid
    exact ⟨.indented, blank_indented, laid⟩

/-- Both styles write one text but for the blanks outside of strings: the document without any, its sections
as they are written on their own. The strings in it are those of the document, as they are written: every
character as itself but for quotes, backslashes and controls, which have their escapes. -/
theorem render_condensed :
    (∀ style, condensed (document.render style) = Json.write .minimal 0 document.toValue) ∧
    (∀ style, stringParts (document.render style) = document.strings.flatMap writeString) ∧
    Json.write .minimal 0 document.toValue =
      "\x7b\"version\":".toList ++ writeString document.version ++ ",\"tag\":".toList ++
        writeString document.tag ++ ",\"date\":".toList ++ writeString document.date ++
        ",\"source_repo\":".toList ++ writeString document.sourceRepo ++ ",\"keep_a_changelog\":".toList ++
        Json.write .minimal 0 document.changelog.toValue ++ "\x7d".toList ∧
    Json.write .minimal 0 document.changelog.toValue = '\x7b' :: [','].intercalate
      ([("Added", Section.added), ("Changed", .changed), ("Deprecated", .deprecated), ("Removed", .removed),
        ("Fixed", .fixed), ("Security", .security), ("Other", .other)].map fun (name, s) =>
          '"' :: name.toList ++ "\":[".toList ++
            [','].intercalate ((document.changelog.get s).map writeString) ++ [']']) ++ ['\x7d'] ∧
    (∀ text, writeString text = '"' :: text.flatMap escape ++ ['"']) ∧
    (∀ c, escape c = [c] ↔ c ≠ '"' ∧ c ≠ '\\' ∧ 0x20 ≤ c.toNat) ∧
    ['"', '\\', '\x08', '\t', '\n', '\x0c', '\r'].map escape =
      ["\\\"", "\\\\", "\\b", "\\t", "\\n", "\\f", "\\r"].map String.toList ∧
    ∀ c, CharSpelling c (escape c) := by
  have numbers := document.numbersSpelled_toValue
  refine ⟨fun style => ?_, fun style => ?_, ?_, document.changelog.write_minimal_toValue, fun _ => rfl,
    escape_eq_self_iff, by decide, spelling_escape⟩
  · obtain ⟨layout, blank, laid⟩ := document.exists_laid_render style
    rw [laid.condensed_eq blank numbers, write_minimal]
  · obtain ⟨layout, blank, laid⟩ := document.exists_laid_render style
    rw [laid.stringParts_eq blank numbers, ← strings_toValue]
    rfl
  · obtain ⟨version, tag, date, sourceRepo, changelog⟩ :
        writeString "version".toList = "\"version\"".toList ∧ writeString "tag".toList = "\"tag\"".toList ∧
        writeString "date".toList = "\"date\"".toList ∧
        writeString "source_repo".toList = "\"source_repo\"".toList ∧
        writeString "keep_a_changelog".toList = "\"keep_a_changelog\"".toList := by decide
    rw [toValue, write_minimal_object]
    simp only [List.map_cons, List.map_nil, condensedMember, version, tag, date, sourceRepo, changelog, write]
    simp

end Document

end ReleaseNotes
