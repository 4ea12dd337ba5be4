import ReleaseNotes.Log.Filter
import ReleaseNotes.Proofs.Boundary
import ReleaseNotes.Proofs.Trimmed

/-! Why a directive may split a character. It is divided without the space in front of it and then cut with
that space, so all is well while the two agree on where characters begin: if there is no space in front,
or if every character is one byte. -/
namespace ReleaseNotes

open Text

namespace Directive

/-- Where the text of a directive may be cut, its source may be cut at the same byte. -/
def Aligned (source : Text) : Prop :=
  ∀ front rest, trim source = front ++ rest → IsBoundary (size front) source

theorem aligned_of_startsSolid {source : Text} (starts : StartsSolid source) : Aligned source := by
  intro front rest whole
  obtain ⟨gap, cut, -⟩ := exists_trimEnd source
  have trimmed : trim source = trimEnd source := by rw [trim, trimStart_of_startsSolid starts]
  refine ⟨front, rest ++ gap, ?_, rfl⟩
  rw [← List.append_assoc, ← whole, trimmed, ← cut]

theorem aligned_of_ascii {source : Text} (ascii : ∀ c ∈ source, c.toNat ≤ 127) : Aligned source := by
  intro front rest whole
  have inside : trim source <:+: source := trim_isInfix source
  have asciiFront : ∀ c ∈ front, c.toNat ≤ 127 := fun c member =>
    ascii c (inside.subset (whole ▸ List.mem_append_left rest member))
  have short : front.length ≤ source.length := by
    have lengths := inside.length_le
    rw [whole, List.length_append] at lengths
    omega
  refine ⟨source.take front.length, source.drop front.length, (List.take_append_drop ..).symm, ?_⟩
  rw [size_of_ascii asciiFront, size_of_ascii fun c member => ascii c (List.mem_of_mem_take member),
    List.length_take, Nat.min_eq_left short]

/-- A reading that splits no character, and whose result has the property. -/
def Unsplit {α : Type} (reading : Except Fault α) (P : α → Prop) : Prop :=
  match reading with
  | .ok a => P a
  | .error fault => fault = .malformed

theorem Unsplit.bind {α β : Type} {reading : Except Fault α} {next : α → Except Fault β} {P : α → Prop}
    {Q : β → Prop} (first : Unsplit reading P) (behind : ∀ a, P a → Unsplit (next a) Q) :
    Unsplit (reading >>= next) Q := by
  cases reading with
  | ok a => exact behind a first
  | error fault => exact first

theorem Unsplit.ne_split {α : Type} {reading : Except Fault α} {P : α → Prop}
    (unsplit : Unsplit reading P) : reading ≠ .error .split := by
  rintro rfl
  exact Fault.noConfusion unsplit

/-- A cursor that stands between two characters of the directive. -/
def Cursor.IsIn (cursor : Cursor) (source : Text) : Prop :=
  ∃ passed, trim source = passed ++ cursor.ahead ∧ cursor.byte = size passed

theorem Cursor.IsIn.step {byte : Nat} {d : Char} {ahead source : Text}
    (isIn : Cursor.IsIn ⟨byte, d :: ahead⟩ source) (ascii : d.toNat ≤ 127) :
    Cursor.IsIn ⟨byte + 1, ahead⟩ source := by
  obtain ⟨passed, whole, rfl⟩ := isIn
  refine ⟨passed ++ [d], by simpa using whole, ?_⟩
  rw [size_append, size_cons, size_nil, utf8Size_of_ascii ascii]

section Reading

variable {source : Text} (aligned : Aligned source)
include aligned

theorem Cursor.IsIn.isBoundary {cursor : Cursor} (isIn : cursor.IsIn source) :
    IsBoundary cursor.byte source := by
  obtain ⟨passed, whole, byte⟩ := isIn
  exact byte ▸ aligned passed cursor.ahead whole

omit aligned in
theorem unsplit_part {start stop : Nat} (first : IsBoundary start source) (last : IsBoundary stop source)
    (ordered : start ≤ stop) : Unsplit (part source start stop) fun _ => True := by
  obtain ⟨cut, sliced⟩ := exists_slice first last ordered
  simp [part, sliced, Unsplit]

theorem unsplit_readUpTo {cursor : Cursor} (isIn : cursor.IsIn source) {delimiters : List Char}
    (ascii : ∀ d ∈ delimiters, d.toNat ≤ 127) :
    Unsplit (readUpTo source delimiters cursor) fun (_, _, next) => next.IsIn source := by
  unfold readUpTo
  cases cut : cursor.ahead.span (!delimiters.contains ·) with
  | mk passed rest =>
    obtain ⟨whole, -, boundary⟩ := span_eq_iff.mp cut
    obtain ⟨front, text, byte⟩ := isIn
    cases rest with
    | nil => exact rfl
    | cons d ahead =>
      have delimiter : d ∈ delimiters := by simpa using boundary d rfl
      have stop : Cursor.IsIn ⟨cursor.byte + size passed, d :: ahead⟩ source := by
        refine ⟨front ++ passed, ?_, by rw [byte, size_append]⟩
        rw [text, whole, List.append_assoc]
      have here : IsBoundary cursor.byte source :=
        Cursor.IsIn.isBoundary aligned ⟨front, text, byte⟩
      have cutting := unsplit_part here (stop.isBoundary aligned) (Nat.le_add_right _ _)
      exact cutting.bind fun _ _ => stop.step (ascii d delimiter)

omit aligned in
theorem unsplit_readLevel {start : Nat} (first : IsBoundary start source) :
    Unsplit (readLevel source start) fun _ => True := by
  unfold readLevel
  refine (unsplit_part first (isBoundary_size source) first.le_size).bind fun text _ => ?_
  cases text with
  | nil => trivial
  | cons c rest =>
    cases read : Level.read? (c :: rest) with
    | none => simp [Unsplit, read]
    | some level => simp [Unsplit, read]

theorem unsplit_readSpanLevel {cursor : Cursor} (isIn : cursor.IsIn source) :
    Unsplit (readSpanLevel source cursor) fun _ => True := by
  obtain ⟨byte, ahead⟩ := cursor
  unfold readSpanLevel
  split
  · trivial
  · rename_i rest equals
    obtain rfl : ahead = '=' :: rest := equals
    exact unsplit_readLevel ((isIn.step (by decide)).isBoundary aligned)
  · exact rfl

theorem unsplit_readField {cursor : Cursor} (isIn : cursor.IsIn source) :
    Unsplit (readField source cursor) fun (_, next) => next.IsIn source := by
  unfold readField
  refine (unsplit_readUpTo aligned isIn (by simp)).bind ?_
  rintro ⟨field, brace, byte, ahead⟩ next
  dsimp only
  split
  · exact next.step (by decide)
  · exact rfl

theorem unsplit_readSpan {cursor : Cursor} (isIn : cursor.IsIn source) :
    Unsplit (readSpan source cursor) fun (_, next) => next.IsIn source := by
  unfold readSpan
  refine (unsplit_readUpTo aligned isIn (by simp)).bind ?_
  rintro ⟨name, delimiter, next⟩ isNext
  dsimp only
  split
  · exact isNext
  · exact (unsplit_readField aligned isNext).bind fun _ isIn => isIn

theorem unsplit_read : Unsplit (read source) fun _ => True := by
  have start : Cursor.IsIn ⟨0, trim source⟩ source := ⟨[], rfl, rfl⟩
  unfold read
  dsimp only
  split
  · exact rfl
  split
  · trivial
  refine (unsplit_readUpTo aligned start (by simp)).bind ?_
  rintro ⟨word, delimiter, next⟩ isNext
  dsimp only
  split
  · exact (unsplit_readLevel (isNext.isBoundary aligned)).bind fun _ _ => trivial
  · refine (unsplit_readSpan aligned isNext).bind ?_
    rintro ⟨condition, behind⟩ isBehind
    exact (unsplit_readSpanLevel aligned isBehind).bind fun _ _ => trivial

end Reading

/-- Only a directive behind space that is not all ASCII splits a character. -/
theorem misaligned_of_split {source : Text} (fault : read source = .error .split) :
    startsWithSpace source = true ∧ ∃ c ∈ source, 127 < c.toNat := by
  have misaligned : ¬Aligned source := fun aligned => (unsplit_read aligned).ne_split fault
  constructor
  · by_contra solid
    refine misaligned (aligned_of_startsSolid ?_)
    cases source with
    | nil => simp [StartsSolid]
    | cons c rest =>
      intro d first
      obtain rfl := Option.some.inj first
      exact Bool.eq_false_iff.mpr solid
  · by_contra ascii
    refine misaligned (aligned_of_ascii fun c member => ?_)
    by_contra beyond
    exact ascii ⟨c, member, Nat.not_le.mp beyond⟩

end Directive

namespace Filter

theorem exists_piece_of_read_eq_error {text : Text} {fault : Directive.Fault}
    (failed : read text = .error fault) : ∃ piece ∈ pieces text, Directive.read piece = .error fault := by
  unfold read at failed
  generalize pieces text = directives at *
  induction directives with
  | nil => contradiction
  | cons piece rest ih =>
    rw [List.mapM_cons] at failed
    cases first : Directive.read piece with
    | error other =>
      rw [first] at failed
      obtain rfl := Except.error.inj failed
      exact ⟨piece, by simp, first⟩
    | ok directive =>
      cases behind : rest.mapM Directive.read with
      | error other =>
        rw [first, behind] at failed
        obtain rfl := Except.error.inj failed
        obtain ⟨later, member, fails⟩ := ih behind
        exact ⟨later, by simp [member], fails⟩
      | ok directives =>
        rw [first, behind] at failed
        contradiction

/-- There is a filter unless the variable holds one with a directive that splits a character. -/
theorem choose?_eq_none_iff {verbose : Bool} {spelling? : Option Text} :
    choose? verbose spelling? = none ↔ spelling?.map read = some (.error .split) := by
  unfold choose?
  split
  all_goals
    rename_i found
    simp [found]

end Filter

end ReleaseNotes
