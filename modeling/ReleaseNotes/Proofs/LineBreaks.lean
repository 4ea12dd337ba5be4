import ReleaseNotes.Notes.Candidate
import ReleaseNotes.Proofs.Trimmed

/-! Bodies line by line. A body is one unbroken line, or an unbroken line, a break and the rest, and the
candidates follow that shape: a carriage return that takes the line feed behind it with it only
swallows a blank line. -/
namespace ReleaseNotes

open Text

/-- A text that is all on one line. -/
def Unbroken (text : Text) : Prop :=
  ∀ c ∈ text, isLineBreak c = false

theorem unbroken_iff {text : Text} : Unbroken text ↔ text.all (!isLineBreak ·) = true := by
  simp [Unbroken]

instance (text : Text) : Decidable (Unbroken text) := decidable_of_iff _ unbroken_iff.symm

theorem Unbroken.no_lf {text : Text} (unbroken : Unbroken text) : '\n' ∉ text := by
  intro member
  have broken : isLineBreak '\n' = true := by decide
  simp [unbroken _ member] at broken

theorem unbroken_append {a b : Text} : Unbroken (a ++ b) ↔ Unbroken a ∧ Unbroken b :=
  List.forall_mem_append

theorem unbroken_of_printable {text : Text} (printable : ∀ c ∈ text, 32 ≤ c.toNat ∧ c.toNat ≤ 126) :
    Unbroken text := by
  intro c member
  obtain ⟨low, high⟩ := printable c member
  by_contra broken
  simp only [isLineBreak, lineBreaks, List.contains_eq_mem, Bool.not_eq_false, decide_eq_true_eq,
    List.mem_cons, List.not_mem_nil, or_false] at broken
  rcases broken with rfl | rfl | rfl | rfl | rfl | rfl | rfl | rfl | rfl | rfl
  all_goals simp at low high

/-- What ends a line: a break character, or a carriage return and its line feed. -/
def IsSeparator (text : Text) : Prop :=
  text = ['\r', '\n'] ∨ ∃ c, isLineBreak c = true ∧ text = [c]

theorem unbroken_or_break (text : Text) :
    Unbroken text ∨ ∃ line c rest, text = line ++ c :: rest ∧ Unbroken line ∧ isLineBreak c = true := by
  cases cut : text.span (!isLineBreak ·) with
  | mk line rest =>
    obtain ⟨whole, inside, boundary⟩ := span_eq_iff.mp cut
    have unbroken : Unbroken line := fun c member => by simpa using inside c member
    cases rest with
    | nil =>
      rw [List.append_nil] at whole
      exact .inl (whole ▸ unbroken)
    | cons c rest => exact .inr ⟨line, c, rest, whole, unbroken, by simpa using boundary c rfl⟩

/-- Induction on a text line by line. -/
@[elab_as_elim] theorem lineInduction {motive : Text → Prop}
    (last : ∀ line, Unbroken line → motive line)
    (broken : ∀ line c rest, Unbroken line → isLineBreak c = true → motive rest →
      motive (line ++ c :: rest)) (text : Text) : motive text := by
  rcases unbroken_or_break text with unbroken | ⟨line, c, rest, whole, unbroken, ended⟩
  · exact last text unbroken
  · have shorter : rest.length < text.length := by
      simp [whole]
      omega
    rw [whole]
    exact broken line c rest unbroken ended (lineInduction last broken rest)
termination_by text.length

theorem linesAfter_of_unbroken {line : Text} (unbroken : Unbroken line) (given : line ≠ [])
    (afterReturn : Bool) : linesAfter afterReturn line = [line] := by
  induction line generalizing afterReturn with
  | nil => exact absurd rfl given
  | cons c line ih =>
    rw [linesAfter_cons_of_not_break _ _ (unbroken c (by simp))]
    by_cases nothing : line = []
    · subst nothing
      rfl
    · rw [ih (fun d member => unbroken d (by simp [member])) nothing]
      rfl

theorem lines_append_break {line : Text} (unbroken : Unbroken line) {c : Char}
    (broken : isLineBreak c = true) (rest : Text) :
    lines (line ++ c :: rest) = line :: linesAfter (c == '\r') rest := by
  induction line with
  | nil => exact lines_cons_of_break rest broken
  | cons d line ih =>
    have step := ih (fun e member => unbroken e (by simp [member]))
    unfold lines at step ⊢
    rw [List.cons_append, linesAfter_cons_of_not_break _ _ (unbroken d (by simp)), step]
    rfl

theorem unbroken_of_mem_extendFirst {c : Char} (inside : isLineBreak c = false) {rest : List Text}
    (unbroken : ∀ line ∈ rest, Unbroken line) : ∀ line ∈ extendFirst c rest, Unbroken line := by
  cases rest with
  | nil => simp [extendFirst, Unbroken, inside]
  | cons first rest =>
    intro line member
    rcases List.mem_cons.mp member with rfl | member
    · intro d found
      rcases List.mem_cons.mp found with rfl | found
      · exact inside
      · exact unbroken first (by simp) d found
    · exact unbroken line (List.mem_cons_of_mem _ member)

theorem unbroken_of_mem_linesAfter (afterReturn : Bool) (text : Text) :
    ∀ line ∈ linesAfter afterReturn text, Unbroken line := by
  induction text generalizing afterReturn with
  | nil => simp
  | cons c rest ih =>
    simp only [linesAfter]
    split
    · exact ih false
    · split
      · intro line member
        rcases List.mem_cons.mp member with rfl | member
        · simp [Unbroken]
        · exact ih _ line member
      · rename_i inside
        exact unbroken_of_mem_extendFirst (by simpa using inside) (ih false)

namespace Line

@[simp] theorem candidate?_nil : candidate? [] = none := rfl

theorem afterBullet?_suffix {text rest : Text} (cut : afterBullet? text = some rest) :
    rest <:+ text := by
  cases text with
  | nil => simp [afterBullet?] at cut
  | cons c text =>
    simp only [afterBullet?, Option.ite_none_right_eq_some, Option.some.injEq] at cut
    obtain ⟨-, rfl⟩ := cut
    exact (List.dropWhile_suffix isSpace).trans (List.suffix_cons c text)

theorem afterNumber?_suffix {text rest : Text} (cut : afterNumber? text = some rest) :
    rest <:+ text := by
  unfold afterNumber? at cut
  split at cut
  case h_1 digit digits tail spanned =>
    obtain ⟨rfl, -, -⟩ := span_eq_iff.mp spanned
    simp only [Option.ite_none_right_eq_some, Option.some.injEq] at cut
    obtain ⟨-, rfl⟩ := cut
    exact (List.dropWhile_suffix isSpace).trans
      ((List.suffix_cons '.' tail).trans (List.suffix_append (digit :: digits) _))
  case h_2 => contradiction

theorem getD_isInfix {cut : Option Text} {text : Text} (suffix : ∀ rest, cut = some rest → rest <:+ text) :
    cut.getD text <:+: text := by
  cases cut with
  | none => exact List.infix_refl text
  | some rest => exact (suffix rest rfl).isInfix

theorem cleaned_isInfix (line : Text) : cleaned line <:+: line := by
  unfold cleaned
  split
  · unfold withoutMarkers
    exact (trim_isInfix _).trans ((getD_isInfix fun _ => afterNumber?_suffix).trans
      ((getD_isInfix fun _ => afterBullet?_suffix).trans (trim_isInfix line)))
  · exact trim_isInfix line

end Line

theorem not_isHeader_nil : isHeader [] = false := rfl

namespace Line

theorem cleaned_of_candidate? {line entry : Text} (holds : candidate? line = some entry) :
    entry = cleaned line ∧ isHeader entry = true := by
  simp only [candidate?, Option.ite_none_left_eq_some, Option.ite_none_right_eq_some,
    Option.some.injEq] at holds
  obtain ⟨-, header, rfl⟩ := holds
  exact ⟨rfl, header⟩

theorem trimmed_of_candidate? {line entry : Text} (holds : candidate? line = some entry) :
    Trimmed entry := by
  obtain ⟨rfl, header⟩ := cleaned_of_candidate? holds
  have given : cleaned line ≠ [] := by
    intro nothing
    simp [nothing, not_isHeader_nil] at header
  unfold cleaned at given ⊢
  split at given
  · rename_i marked
    rw [if_pos marked]
    exact trimmed_trim given
  · rename_i plain
    rw [if_neg plain]
    exact trimmed_trim given

end Line

theorem filterMap_linesAfter (afterReturn : Bool) (text : Text) :
    (linesAfter afterReturn text).filterMap Line.candidate? = candidates text := by
  cases text with
  | nil => rfl
  | cons c rest =>
    by_cases feed : c = '\n'
    · subst feed
      have broken : isLineBreak '\n' = true := by decide
      have plain : candidates ('\n' :: rest) = (linesAfter false rest).filterMap Line.candidate? := by
        simp [candidates, lines_cons_of_break rest broken, List.filterMap_cons]
      rw [plain]
      cases afterReturn <;> simp [linesAfter, broken, List.filterMap_cons]
    · rw [linesAfter_cons_of_ne afterReturn rest feed]
      rfl

theorem candidates_of_unbroken {line : Text} (unbroken : Unbroken line) :
    candidates line = (Line.candidate? line).toList := by
  by_cases nothing : line = []
  · subst nothing
    rfl
  · rw [candidates, lines, linesAfter_of_unbroken unbroken nothing]
    cases held : Line.candidate? line <;> simp [held]

theorem candidates_append_break {line : Text} (unbroken : Unbroken line) {c : Char}
    (broken : isLineBreak c = true) (rest : Text) :
    candidates (line ++ c :: rest) = (Line.candidate? line).toList ++ candidates rest := by
  rw [candidates, lines_append_break unbroken broken, List.filterMap_cons, filterMap_linesAfter]
  cases Line.candidate? line <;> rfl

/-- Nothing that stands behind a break changes what the lines in front of it hold, or the other way
round. -/
theorem candidates_append {c : Char} (broken : isLineBreak c = true) (a b : Text) :
    candidates (a ++ c :: b) = candidates a ++ candidates b := by
  induction a using lineInduction with
  | last line unbroken =>
    rw [candidates_append_break unbroken broken, candidates_of_unbroken unbroken]
  | broken line d rest unbroken ended ih =>
    rw [List.append_assoc, List.cons_append, candidates_append_break unbroken ended, ih,
      candidates_append_break unbroken ended, List.append_assoc]

theorem candidates_append_separator {separator : Text} (ends : IsSeparator separator) (a b : Text) :
    candidates (a ++ separator ++ b) = candidates a ++ candidates b := by
  rcases ends with rfl | ⟨c, broken, rfl⟩
  · have feed := candidates_append (c := '\n') (by decide) [] b
    rw [List.append_assoc, List.cons_append, candidates_append (by decide)]
    exact congrArg _ feed
  · rw [List.append_assoc, List.singleton_append, candidates_append broken]

/-- A candidate is on one line, has no space around it, and starts like a header. -/
theorem shape_of_mem_candidates {body entry : Text} (member : entry ∈ candidates body) :
    Unbroken entry ∧ Trimmed entry ∧ isHeader entry = true := by
  obtain ⟨line, inBody, holds⟩ := List.mem_filterMap.mp member
  obtain ⟨rfl, header⟩ := Line.cleaned_of_candidate? holds
  refine ⟨?_, Line.trimmed_of_candidate? holds, header⟩
  intro c found
  exact unbroken_of_mem_linesAfter false body line inBody c ((Line.cleaned_isInfix line).subset found)

end ReleaseNotes
