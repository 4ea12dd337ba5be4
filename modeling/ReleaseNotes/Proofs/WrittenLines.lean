import Mathlib.Algebra.GroupWithZero.Nat
import ReleaseNotes.Proofs.Condensed

/-! The lines of a written document. Texts are escaped, so no control character of theirs is written, and the
line feeds are those of the layout: one for each item or member, and one in front of each bracket that closes
over some. Their number depends on how many entries the sections have, and on nothing that stands in them. -/
namespace ReleaseNotes

namespace Json

-- For texts that are known: the conclusion itself would be decided by going through all characters there are.
theorem printed_of_all {text : Text} (all : text.all (fun c => 0x20 ≤ c.toNat) = true) :
    ∀ c ∈ text, 0x20 ≤ c.toNat := by
  simpa using all

theorem printed_of_shortEscape {c letter : Char} (listed : shortEscapes.lookup c = some letter) :
    0x20 ≤ letter.toNat := by
  have all : ∀ pair ∈ shortEscapes, 0x20 ≤ pair.2.toNat := by decide
  obtain ⟨before, after, whole, -⟩ := List.lookup_eq_some_iff.mp listed
  exact all (c, letter) (by simp [whole])

theorem printed_twoHex {n : Nat} (small : n < 0x20) : ∀ d ∈ Text.twoHex n, 0x20 ≤ d.toNat := by
  have all : ∀ n < 0x20, (Text.twoHex n).all (fun d => 0x20 ≤ d.toNat) = true := by decide
  exact printed_of_all (all n small)

/-- What stands for a character in a string has no control character in it, whatever the character is. -/
theorem printed_escape (c : Char) : ∀ d ∈ escape c, 0x20 ≤ d.toNat := by
  intro d member
  rcases escape_cases c with ⟨letter, listed, same⟩ | ⟨control, same⟩ | ⟨printed, -, -, same⟩
  all_goals rw [same] at member
  · rcases List.mem_pair.mp member with rfl | rfl
    · decide
    · exact printed_of_shortEscape listed
  · rcases List.mem_append.mp member with opening | digit
    · exact printed_of_all (by decide) d opening
    · exact printed_twoHex control d digit
  · rwa [List.mem_singleton.mp member]

theorem printed_writeString (text : Text) : ∀ d ∈ writeString text, 0x20 ≤ d.toNat := by
  intro d member
  simp only [writeString, List.cons_append, List.mem_cons, List.mem_append, List.mem_flatMap,
    List.not_mem_nil, or_false] at member
  rcases member with rfl | ⟨c, -, escaped⟩ | rfl
  · decide
  · exact printed_escape c d escaped
  · decide

theorem printed_of_isNumberChar {c : Char} (inNumber : isNumberChar c = true) : 0x20 ≤ c.toNat := by
  rcases Bool.or_eq_true_iff.mp inNumber with digit | sign
  · have range : 48 ≤ c.toNat ∧ c.toNat ≤ 57 := by
      simpa [Char.isDigit, UInt32.le_iff_toNat_le] using digit
    omega
  · have listed : c ∈ ['-', '+', '.', 'e', 'E'] := by simpa using sign
    exact printed_of_all (by decide) c listed

theorem Token.printed_text {token : Token} (spelled : NumbersSpelled [token]) :
    ∀ c ∈ token.text, 0x20 ≤ c.toNat := by
  match token with
  | .mark m => cases m <;> exact printed_of_all (by decide)
  | .null => exact printed_of_all (by decide)
  | .bool true => exact printed_of_all (by decide)
  | .bool false => exact printed_of_all (by decide)
  | .number spelling =>
    intro c member
    exact printed_of_isNumberChar (isNumberChar_of_isNumber (spelled spelling (by simp)) c member)
  | .string text => exact printed_writeString text

/-- A control character in what is written stands in a gap. -/
theorem Laid.printed_or_gap {layout : Layout} {tokens : List Token} {text : Text}
    (laid : Laid layout tokens text) (numbers : NumbersSpelled tokens) :
    ∀ c ∈ text, 0x20 ≤ c.toNat ∨ ∃ gap, layout.IsGap gap ∧ c ∈ gap := by
  induction laid with
  | empty => simp
  | @gap gap _ _ isGap _ ih =>
    intro c member
    rcases List.mem_append.mp member with inGap | behind
    · exact .inr ⟨gap, isGap, inGap⟩
    · exact ih numbers c behind
  | token _ _ ih =>
    obtain ⟨first, rest⟩ := numbersSpelled_cons.mp numbers
    intro c member
    rcases List.mem_append.mp member with inToken | behind
    · exact .inl (Token.printed_text first c inToken)
    · exact ih rest c behind

theorem count_writeString (text : Text) : (writeString text).count '\n' = 0 := by
  apply List.count_eq_zero.mpr
  intro member
  exact absurd (printed_writeString text '\n' member) (by decide)

theorem count_edge_indented (depth : Nat) : (Layout.indented.edge depth).count '\n' = 1 := by
  change (Layout.newLine depth).count '\n' = 1
  simp [Layout.newLine, List.count_replicate]

theorem count_item_indented (depth : Nat) : (Layout.indented.item depth).count '\n' = 1 :=
  count_edge_indented depth

theorem count_value_indented : Layout.indented.value.count '\n' = 0 := rfl

/-- The line feeds of an indented writing. -/
def lineFeeds (depth : Nat) (v : Value) : Nat :=
  (write .indented depth v).count '\n'

theorem count_writeItems (depth : Nat) (items : List Value) :
    (writeItems .indented depth items).count '\n' =
      items.length + (items.map (lineFeeds depth)).sum := by
  induction items with
  | nil => rfl
  | cons v rest ih =>
    simp only [writeItems, List.cons_append, List.append_assoc, List.count_append, count_item_indented, ih,
      List.count_cons_of_ne (show ',' ≠ '\n' by decide), List.length_cons, List.map_cons, List.sum_cons,
      lineFeeds]
    omega

theorem count_writeMembers (depth : Nat) (members : List (Text × Value)) :
    (writeMembers .indented depth members).count '\n' =
      members.length + (members.map fun member => lineFeeds depth member.2).sum := by
  induction members with
  | nil => rfl
  | cons member rest ih =>
    obtain ⟨name, v⟩ := member
    simp only [writeMembers, List.cons_append, List.append_assoc, List.count_append, count_item_indented,
      count_writeString, count_value_indented, ih, List.count_cons_of_ne (show ',' ≠ '\n' by decide),
      List.count_cons_of_ne (show ':' ≠ '\n' by decide), List.length_cons, List.map_cons, List.sum_cons,
      lineFeeds]
    omega

theorem lineFeeds_array {items : List Value} (given : items ≠ []) (depth : Nat) :
    lineFeeds depth (.array items) = items.length + 1 + (items.map (lineFeeds (depth + 1))).sum := by
  obtain ⟨v, rest, rfl⟩ := List.exists_cons_of_ne_nil given
  have opening : '[' ≠ '\n' := by decide
  have closing : [']'].count '\n' = 0 := by decide
  simp only [lineFeeds, write, List.cons_append, List.append_assoc, List.count_append, count_edge_indented,
    count_writeItems, List.count_cons_of_ne opening, closing, List.length_cons, List.map_cons, List.sum_cons]
  omega

theorem lineFeeds_object {members : List (Text × Value)} (given : members ≠ []) (depth : Nat) :
    lineFeeds depth (.object members) =
      members.length + 1 + (members.map fun member => lineFeeds (depth + 1) member.2).sum := by
  obtain ⟨⟨name, v⟩, rest, rfl⟩ := List.exists_cons_of_ne_nil given
  have opening : '\x7b' ≠ '\n' := by decide
  have colon : ':' ≠ '\n' := by decide
  have closing : ['\x7d'].count '\n' = 0 := by decide
  simp only [lineFeeds, write, List.cons_append, List.append_assoc, List.count_append, count_edge_indented,
    count_writeString, count_value_indented, count_writeMembers, List.count_cons_of_ne opening,
    List.count_cons_of_ne colon, closing, List.length_cons, List.map_cons, List.sum_cons]
  omega

theorem exists_write_object (layout : Layout) (depth : Nat) (members : List (Text × Value)) :
    ∃ front, write layout depth (.object members) = front ++ ['\x7d'] := by
  cases members with
  | nil => exact ⟨['\x7b'], rfl⟩
  | cons member rest => exact ⟨_, rfl⟩

theorem lineFeeds_string (depth : Nat) (text : Text) : lineFeeds depth (.string text) = 0 := by
  rw [lineFeeds, write, count_writeString]

end Json

open Json

theorem lineFeeds_textList (depth : Nat) (texts : List Text) :
    lineFeeds depth (textList texts) = if texts = [] then 0 else texts.length + 1 := by
  split
  · rename_i none
    subst none
    rfl
  · rename_i given
    have nothing : ((texts.map Value.string).map (lineFeeds (depth + 1))).sum = 0 := by
      simp [Function.comp_def, lineFeeds_string]
    rw [textList, lineFeeds_array (by simpa using given), nothing, List.length_map, Nat.add_zero]

theorem Sections.lineFeeds_toValue (depth : Nat) (sections : Sections) :
    lineFeeds depth sections.toValue = 8 +
      (Section.all.map fun s => if sections.get s = [] then 0 else (sections.get s).length + 1).sum := by
  rw [toValue, lineFeeds_object (by simp [toList, Section.all]), List.map_map]
  simp only [toList, List.map_map, Function.comp_def, lineFeeds_textList]
  rfl

namespace Document

variable (document : Document)

theorem lineFeeds_toValue : lineFeeds 0 document.toValue = 14 +
    (Section.all.map fun s =>
      if document.changelog.get s = [] then 0 else (document.changelog.get s).length + 1).sum := by
  rw [toValue, lineFeeds_object (by simp)]
  simp only [List.map_cons, List.map_nil, lineFeeds_string, Sections.lineFeeds_toValue, List.length_cons,
    List.length_nil, List.sum_cons, List.sum_nil]
  omega

theorem printed_compact : ∀ c ∈ document.render .compact, 0x20 ≤ c.toNat := by
  intro c member
  have laid := laid_write .spaced 0 document.toValue
  rcases laid.printed_or_gap document.numbersSpelled_toValue c member with printed | ⟨gap, isGap, inGap⟩
  · exact printed
  · have space : c ∈ [' '] := by cases isGap <;> simp_all [Layout.spaced]
    rw [List.mem_singleton.mp space]
    decide

theorem printed_or_lineFeed_pretty : ∀ c ∈ document.render .pretty, 0x20 ≤ c.toNat ∨ c = '\n' := by
  intro c member
  obtain ⟨layout, blank, laid⟩ := document.exists_laid_render .pretty
  rcases laid.printed_or_gap document.numbersSpelled_toValue c member with printed | ⟨gap, isGap, inGap⟩
  · exact .inl printed
  · rcases List.mem_pair.mp (blank gap isGap c inGap) with rfl | rfl
    · exact .inl (by decide)
    · exact .inr rfl

/-- No text of a document reaches the lines of what is written. The compact style is one line, without any
control character; the pretty style has no control character but line feeds, one of which ends it behind the
closing bracket, and their number is settled by how many entries each section has. -/
theorem render_lines :
    (∀ c ∈ document.render .compact, 0x20 ≤ c.toNat) ∧
    (∀ c ∈ document.render .pretty, 0x20 ≤ c.toNat ∨ c = '\n') ∧
    (∃ front, document.render .pretty = front ++ ['\x7d', '\n']) ∧
    (document.render .pretty).count '\n' = 15 +
      (Section.all.map fun s =>
        if document.changelog.get s = [] then 0 else (document.changelog.get s).length + 1).sum := by
  refine ⟨document.printed_compact, document.printed_or_lineFeed_pretty, ?_, ?_⟩
  · obtain ⟨front, ends⟩ := exists_write_object .indented 0 _
    exact ⟨front, by rw [render, toValue, ends, List.append_assoc]; rfl⟩
  · have feeds := document.lineFeeds_toValue
    rw [lineFeeds] at feeds
    rw [render, List.count_append, feeds, List.count_singleton_self]
    omega

/-- A document full of line breaks and other controls. -/
def unruly : Document where
  version := "1\n\n2".toList
  tag := "\r\n".toList
  date := []
  sourceRepo := "\x00\u001f".toList
  changelog := { added := ["feat: a\x0bb".toList, "\n".toList], other := ["\u0085".toList] }

theorem render_lines_unruly :
    '\\' ∈ unruly.render .compact ∧ 0x20 ≤ '\\'.toNat ∧
    '\n' ∈ unruly.render .pretty ∧ (0x20 ≤ '\n'.toNat ∨ '\n' = '\n') ∧
    (unruly.render .pretty).count '\n' = 20 := by
  obtain ⟨compact, pretty, -, feeds⟩ := unruly.render_lines
  have escaped : '\\' ∈ unruly.render .compact := by decide +kernel
  have broken : '\n' ∈ unruly.render .pretty := by decide +kernel
  exact ⟨escaped, compact _ escaped, broken, pretty _ broken, feeds⟩

end Document

end ReleaseNotes
