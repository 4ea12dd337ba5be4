/-! Texts are lists of characters, so a rule about text is a recursion on a list.
Strings appear only where a text enters or leaves the program. -/
namespace ReleaseNotes

abbrev Text := List Char

namespace Text

/-- Closed ranges of code points, ascending and apart; the search stops at the first range beyond. -/
abbrev Ranges := List (Nat × Nat)

def Ranges.has : Ranges → Nat → Bool
  | [], _ => false
  | (first, last) :: rest, n => if n < first then false else n ≤ last || Ranges.has rest n

/-- Each range is in order and ends before the next one begins. -/
def Ranges.ascending : Ranges → Bool
  | [] => true
  | [(first, last)] => first ≤ last
  | (first, last) :: (next, stop) :: rest =>
    first ≤ last && last < next && Ranges.ascending ((next, stop) :: rest)

def Ranges.size : Ranges → Nat
  | [] => 0
  | (first, last) :: rest => last + 1 - first + Ranges.size rest

def ofNat (n : Nat) : Text :=
  Nat.toDigits 10 n

def twoHex (n : Nat) : Text :=
  [Nat.digitChar (n / 16 % 16), Nat.digitChar (n % 16)]

def utf8 (text : Text) : List UInt8 :=
  text.flatMap String.utf8EncodeChar

def ofUtf8? (bytes : List UInt8) : Option Text :=
  (String.fromUTF8? ⟨bytes.toArray⟩).map String.toList

/-- Whether the pattern occurs somewhere in the text. The empty pattern occurs everywhere. -/
def occurs (pattern : Text) : Text → Bool
  | [] => pattern.isEmpty
  | c :: rest => pattern.isPrefixOf (c :: rest) || occurs pattern rest

/-- The rest of the text after a leading `word`, if it starts with it once every character of the
text is sent through `fold`. -/
def dropWord? (fold : Char → Char) : Text → Text → Option Text
  | [], text => some text
  | _ :: _, [] => none
  | w :: word, c :: text => if fold c = w then dropWord? fold word text else none

theorem occurs_iff (pattern text : Text) :
    occurs pattern text = true ↔ ∃ before after, text = before ++ pattern ++ after := by
  induction text with
  | nil =>
    constructor
    · intro h
      exact ⟨[], [], by simpa [occurs] using h.symm⟩
    · rintro ⟨before, after, h⟩
      simp_all [occurs]
  | cons c rest ih =>
    simp only [occurs, Bool.or_eq_true, ih, List.isPrefixOf_iff_prefix]
    constructor
    · rintro (⟨after, h⟩ | ⟨before, after, h⟩)
      · exact ⟨[], after, by simpa using h.symm⟩
      · exact ⟨c :: before, after, by simp [h]⟩
    · rintro ⟨before, after, h⟩
      cases before with
      | nil => exact .inl ⟨after, by simpa using h.symm⟩
      | cons b before =>
        simp only [List.cons_append, List.cons.injEq] at h
        exact .inr ⟨before, after, by simpa using h.2⟩

theorem dropWord?_eq_some_iff {fold : Char → Char} {word text rest : Text} :
    dropWord? fold word text = some rest ↔ ∃ front, text = front ++ rest ∧ front.map fold = word := by
  induction word generalizing text with
  | nil => simp [dropWord?, eq_comm]
  | cons w word ih =>
    cases text with
    | nil => simp [dropWord?]
    | cons c text =>
      simp only [dropWord?]
      split
      · rename_i same
        rw [ih]
        constructor
        · rintro ⟨front, rfl, rfl⟩
          exact ⟨c :: front, by simp, by simp [same]⟩
        · rintro ⟨front, split, folded⟩
          cases front with
          | nil => simp at folded
          | cons f front =>
            simp only [List.map_cons, List.cons.injEq, List.cons_append] at folded split
            exact ⟨front, split.2, folded.2⟩
      · rename_i differ
        simp only [reduceCtorEq, false_iff]
        rintro ⟨front, split, folded⟩
        cases front with
        | nil => simp at folded
        | cons f front =>
          simp only [List.map_cons, List.cons.injEq, List.cons_append] at folded split
          exact differ (by rw [split.1]; exact folded.1)

end Text

end ReleaseNotes
