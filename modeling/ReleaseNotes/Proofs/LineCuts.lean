import Mathlib.Data.List.Forall2
import ReleaseNotes.Proofs.Boundary
import ReleaseNotes.Proofs.LineBreaks

/-! Lines and what ends them. A text is a run of lines with their endings in one way only, and its lines are
that run without the endings. So they are what lies between the line feeds once every ending is made a
line feed, and a single pass that notes the bytes where a line starts and stops can cut them out. -/
namespace ReleaseNotes

open Text

/-- A whole ending in front of a text. A carriage return takes the line feed behind it along. -/
def EndsBefore (ending rest : Text) : Prop :=
  IsSeparator ending ∧ (ending = ['\r'] → rest.head? ≠ some '\n')

theorem IsSeparator.ne_nil {ending : Text} (ends : IsSeparator ending) : ending ≠ [] := by
  rcases ends with rfl | ⟨c, -, rfl⟩
  · exact List.cons_ne_nil _ _
  · exact List.cons_ne_nil _ _

theorem EndsBefore.append_ne {ending rest : Text} (ends : EndsBefore ending rest) (line : Text) :
    line ++ ending ++ rest ≠ line := by
  intro same
  rw [List.append_assoc, List.append_right_eq_self] at same
  exact ends.1.ne_nil (List.append_eq_nil_iff.mp same).1

theorem ne_return_of_not_break {c : Char} (inside : isLineBreak c = false) : c ≠ '\r' := by
  rintro rfl
  contradiction

theorem exists_ending {c : Char} (broken : isLineBreak c = true) (rest : Text) :
    ∃ ending behind, c :: rest = ending ++ behind ∧ EndsBefore ending behind := by
  by_cases pair : c = '\r' ∧ rest.head? = some '\n'
  · obtain ⟨rfl, first⟩ := pair
    obtain ⟨behind, rfl⟩ := List.head?_eq_some_iff.mp first
    exact ⟨['\r', '\n'], behind, rfl, .inl rfl, by simp⟩
  · refine ⟨[c], rest, rfl, .inr ⟨c, broken, rfl⟩, ?_⟩
    intro alone first
    exact pair ⟨List.singleton_inj.mp alone, first⟩

theorem EndsBefore.unique {ending rest ending' rest' : Text} (ends : EndsBefore ending rest)
    (ends' : EndsBefore ending' rest') (same : ending ++ rest = ending' ++ rest') :
    ending = ending' ∧ rest = rest' := by
  obtain ⟨rfl | ⟨c, -, rfl⟩, apart⟩ := ends
  · obtain ⟨rfl | ⟨d, -, rfl⟩, apart'⟩ := ends'
    · simpa using same
    · obtain ⟨rfl, rfl⟩ := List.cons.inj same
      exact absurd rfl (apart' rfl)
  · obtain ⟨rfl | ⟨d, -, rfl⟩, apart'⟩ := ends'
    · obtain ⟨rfl, rfl⟩ := List.cons.inj same
      exact absurd rfl (apart rfl)
    · simpa using same

/-- A line and what ends it. -/
structure EndedLine where
  line : Text
  ending : Text
  deriving DecidableEq, Repr

/-- The text that lines and their endings make up. -/
def joined (run : List EndedLine) : Text :=
  run.flatMap fun ended => ended.line ++ ended.ending

@[simp] theorem joined_nil : joined [] = [] := rfl

@[simp] theorem joined_cons (line ending : Text) (run : List EndedLine) :
    joined (⟨line, ending⟩ :: run) = line ++ ending ++ joined run := rfl

/-- Lines with their endings. Only the last one may go without, and is not empty then. -/
inductive IsRun : List EndedLine → Prop
  | nil : IsRun []
  | last {line : Text} (unbroken : Unbroken line) (given : line ≠ []) : IsRun [⟨line, []⟩]
  | cons {line ending : Text} {run : List EndedLine} (unbroken : Unbroken line)
      (ends : EndsBefore ending (joined run)) (behind : IsRun run) : IsRun (⟨line, ending⟩ :: run)

theorem exists_run (text : Text) : ∃ run, IsRun run ∧ joined run = text := by
  rcases unbroken_or_break text with unbroken | ⟨line, c, rest, whole, unbroken, broken⟩
  · by_cases nothing : text = []
    · exact ⟨[], .nil, nothing.symm⟩
    · exact ⟨[⟨text, []⟩], .last unbroken nothing, by simp⟩
  · obtain ⟨ending, behind, cut, ends⟩ := exists_ending broken rest
    have shorter : behind.length < text.length := by
      have positive := List.length_pos_iff.mpr ends.1.ne_nil
      rw [whole, cut]
      simp only [List.length_append]
      omega
    obtain ⟨run, isRun, rfl⟩ := exists_run behind
    refine ⟨⟨line, ending⟩ :: run, .cons unbroken ends isRun, ?_⟩
    rw [joined_cons, List.append_assoc, ← cut, whole]
termination_by text.length

theorem lines_ended {line ending rest : Text} (unbroken : Unbroken line) (ends : EndsBefore ending rest) :
    lines (line ++ ending ++ rest) = line :: lines rest := by
  rw [List.append_assoc]
  obtain ⟨rfl | ⟨c, broken, rfl⟩, apart⟩ := ends
  · apply (lines_append_break unbroken (by decide) ('\n' :: rest)).trans
    rfl
  · apply (lines_append_break unbroken broken rest).trans
    apply congrArg (line :: ·)
    cases rest with
    | nil => rfl
    | cons d rest =>
      by_cases feed : d = '\n'
      · have other : (c == '\r') = false := by
          rw [beq_eq_false_iff_ne]
          rintro rfl
          exact apart rfl (congrArg some feed)
        rw [other]
        rfl
      · exact linesAfter_cons_of_ne _ rest feed

theorem IsRun.lines_joined {run : List EndedLine} (isRun : IsRun run) :
    lines (joined run) = run.map EndedLine.line := by
  induction isRun with
  | nil => rfl
  | last unbroken given =>
    rw [joined_cons, joined_nil, List.append_nil, List.append_nil]
    exact linesAfter_of_unbroken unbroken given false
  | cons unbroken ends _ ih => rw [joined_cons, lines_ended unbroken ends, ih, List.map_cons]

theorem IsRun.unique {run other : List EndedLine} (isRun : IsRun run) (alsoRun : IsRun other)
    (same : joined run = joined other) : run = other := by
  have sameLines : run.map EndedLine.line = other.map EndedLine.line := by
    rw [← isRun.lines_joined, same, alsoRun.lines_joined]
  induction isRun generalizing other with
  | nil => exact (List.map_eq_nil_iff.mp sameLines.symm).symm
  | last =>
    cases alsoRun with
    | nil => simp at sameLines
    | last => simpa using sameLines
    | cons _ ends _ =>
      obtain ⟨rfl, -⟩ := List.cons.inj sameLines
      simp only [joined_cons, joined_nil, List.append_nil] at same
      exact absurd same.symm (ends.append_ne _)
  | cons _ ends _ ih =>
    cases alsoRun with
    | nil => simp at sameLines
    | last =>
      obtain ⟨rfl, -⟩ := List.cons.inj sameLines
      simp only [joined_cons, joined_nil, List.append_nil] at same
      exact absurd same (ends.append_ne _)
    | cons _ ends' behind' =>
      obtain ⟨rfl, later⟩ := List.cons.inj sameLines
      simp only [joined_cons, List.append_assoc, List.append_cancel_left_eq] at same
      obtain ⟨rfl, sameBehind⟩ := ends.unique ends' same
      rw [ih behind' sameBehind later]

/-- Each pair of a carriage return and a line feed as a line feed alone, from the left. -/
def withoutPairs : Text → Text
  | '\r' :: '\n' :: rest => '\n' :: withoutPairs rest
  | c :: rest => c :: withoutPairs rest
  | [] => []

def withLineFeeds (text : Text) : Text :=
  (withoutPairs text).map fun c => if isLineBreak c then '\n' else c

/-- All pieces but the last one if that is empty. -/
def withoutEmptyLast (pieces : List Text) : List Text :=
  if pieces.getLast? = some [] then pieces.dropLast else pieces

theorem withoutPairs_cons {c : Char} (rest : Text) (apart : c = '\r' → rest.head? ≠ some '\n') :
    withoutPairs (c :: rest) = c :: withoutPairs rest := by
  rw [withoutPairs]
  rintro behind rfl rfl
  exact apart rfl rfl

theorem withLineFeeds_append {line : Text} (unbroken : Unbroken line) (rest : Text) :
    withLineFeeds (line ++ rest) = line ++ withLineFeeds rest := by
  induction line with
  | nil => rfl
  | cons c line ih =>
    have inside : isLineBreak c = false := unbroken c (by simp)
    have alone := withoutPairs_cons (line ++ rest) fun isReturn =>
      absurd isReturn (ne_return_of_not_break inside)
    have step := ih fun d member => unbroken d (by simp [member])
    unfold withLineFeeds at step ⊢
    rw [List.cons_append, alone, List.map_cons, step, inside]
    rfl

theorem withLineFeeds_ending {ending rest : Text} (ends : EndsBefore ending rest) :
    withLineFeeds (ending ++ rest) = '\n' :: withLineFeeds rest := by
  obtain ⟨rfl | ⟨c, broken, rfl⟩, apart⟩ := ends
  · rfl
  · have alone : c = '\r' → rest.head? ≠ some '\n' := fun isReturn => apart (by rw [isReturn])
    rw [withLineFeeds, List.singleton_append, withoutPairs_cons rest alone, List.map_cons, if_pos broken]
    rfl

theorem splitOn_append_lineFeed {line : Text} (unbroken : Unbroken line) (rest : Text) :
    (line ++ '\n' :: rest).splitOn '\n' = line :: rest.splitOn '\n' := by
  rw [List.splitOn, List.splitOnP_append_cons _ _ (by simp)]
  change line.splitOn '\n' ++ _ = _
  rw [List.splitOn_eq_singleton unbroken.no_lf]
  rfl

theorem withoutEmptyLast_cons (line : Text) {pieces : List Text} (given : pieces ≠ []) :
    withoutEmptyLast (line :: pieces) = line :: withoutEmptyLast pieces := by
  unfold withoutEmptyLast
  rw [List.getLast?_cons_of_ne_nil given, List.dropLast_cons_of_ne_nil given]
  split <;> rfl

theorem IsRun.pieces {run : List EndedLine} (isRun : IsRun run) :
    withoutEmptyLast ((withLineFeeds (joined run)).splitOn '\n') = run.map EndedLine.line := by
  induction isRun with
  | nil => rfl
  | @last line unbroken given =>
    have whole : withLineFeeds line = line := by
      simpa [withLineFeeds, withoutPairs] using withLineFeeds_append unbroken []
    simp only [joined_cons, joined_nil, List.append_nil, whole]
    rw [List.splitOn_eq_singleton unbroken.no_lf]
    simp [withoutEmptyLast, given]
  | cons unbroken ends _ ih =>
    rw [joined_cons, List.append_assoc, withLineFeeds_append unbroken, withLineFeeds_ending ends,
      splitOn_append_lineFeed unbroken, withoutEmptyLast_cons _ (List.splitOn_ne_nil _ _), ih, List.map_cons]

/-- The bytes where the lines of a text start and stop, noted in one pass. It stands at the byte `here`,
in a line that starts at the byte `start`. -/
def boundsFrom (start here : Nat) : Text → List (Nat × Nat)
  | [] => if start < here then [(start, here)] else []
  | '\r' :: '\n' :: rest => (start, here) :: boundsFrom (here + 2) (here + 2) rest
  | c :: rest =>
    if isLineBreak c then (start, here) :: boundsFrom (here + c.utf8Size) (here + c.utf8Size) rest
    else boundsFrom start (here + c.utf8Size) rest

def lineBounds (text : Text) : List (Nat × Nat) :=
  boundsFrom 0 0 text

theorem boundsFrom_append {line : Text} (unbroken : Unbroken line) (start here : Nat) (rest : Text) :
    boundsFrom start here (line ++ rest) = boundsFrom start (here + size line) rest := by
  induction line generalizing here with
  | nil => rfl
  | cons c line ih =>
    have inside : isLineBreak c = false := unbroken c (by simp)
    rw [List.cons_append, boundsFrom, if_neg (by simp [inside]),
      ih (fun d member => unbroken d (by simp [member])), size_cons, Nat.add_assoc]
    intro behind isReturn
    exact absurd isReturn (ne_return_of_not_break inside)

theorem boundsFrom_ending {ending rest : Text} (ends : EndsBefore ending rest) (start here : Nat) :
    boundsFrom start here (ending ++ rest) =
      (start, here) :: boundsFrom (here + size ending) (here + size ending) rest := by
  obtain ⟨rfl | ⟨c, broken, rfl⟩, apart⟩ := ends
  · rfl
  · rw [List.singleton_append, boundsFrom, if_pos broken]
    · rfl
    · rintro behind rfl rfl
      exact apart rfl rfl

/-- The bytes between the bounds are whole characters of the text, and they spell the line. -/
structure CutOut (text : Text) (bounds : Nat × Nat) (line : Text) : Prop where
  ordered : bounds.1 ≤ bounds.2
  inside : bounds.2 ≤ size text
  first : IsBoundary bounds.1 text
  last : IsBoundary bounds.2 text
  part : slice? bounds.1 bounds.2 text = some line

theorem cutOut_append (before line after : Text) :
    CutOut (before ++ (line ++ after)) (size before, size before + size line) line where
  ordered := Nat.le_add_right _ _
  inside := by
    simp only [size_append]
    omega
  first := ⟨before, line ++ after, rfl, rfl⟩
  last := ⟨before ++ line, after, (List.append_assoc ..).symm, size_append before line⟩
  part := slice?_append before line after

/-- Behind any text the pass notes the lines of a run. -/
theorem IsRun.cutOut {run : List EndedLine} (isRun : IsRun run) (before : Text) :
    List.Forall₂ (CutOut (before ++ joined run)) (boundsFrom (size before) (size before) (joined run))
      (run.map EndedLine.line) := by
  induction isRun generalizing before with
  | nil => simp [boundsFrom]
  | @last line unbroken given =>
    have positive : 0 < size line := by
      by_contra nothing
      exact given (eq_nil_of_size_eq_zero (by omega))
    have cut := cutOut_append before line []
    have noted : boundsFrom (size before) (size before) (line ++ []) =
        [(size before, size before + size line)] := by
      rw [boundsFrom_append unbroken, boundsFrom, if_pos (by omega)]
    simp only [joined_cons, joined_nil, List.append_nil] at noted cut ⊢
    rw [noted]
    exact .cons cut .nil
  | @cons line ending run unbroken ends _ ih =>
    have cut := cutOut_append before line (ending ++ joined run)
    have behind := ih (before ++ line ++ ending)
    rw [joined_cons, List.append_assoc, boundsFrom_append unbroken, boundsFrom_ending ends]
    simp only [size_append, List.append_assoc] at behind ⊢
    rw [← Nat.add_assoc] at behind
    exact .cons cut behind

/-- The lines are the pieces between line feeds once every ending is one, less an empty last piece. They
have no break in them, and with their endings, which are settled by the text, they make it up again.
The bytes noted for them can be cut out of the text, and give the lines. -/
theorem lines_exact (body : Text) :
    lines body = withoutEmptyLast ((withLineFeeds body).splitOn '\n') ∧
    (∀ line ∈ lines body, Unbroken line) ∧
    (∃ run, IsRun run ∧ joined run = body ∧ run.map EndedLine.line = lines body ∧
      ∀ other, IsRun other → joined other = body → other = run) ∧
    List.Forall₂ (CutOut body) (lineBounds body) (lines body) := by
  obtain ⟨run, isRun, rfl⟩ := exists_run body
  refine ⟨?_, unbroken_of_mem_linesAfter false _, ⟨run, isRun, rfl, isRun.lines_joined.symm, ?_⟩, ?_⟩
  · rw [isRun.lines_joined, isRun.pieces]
  · intro other alsoRun same
    exact alsoRun.unique isRun same
  · rw [isRun.lines_joined]
    exact isRun.cutOut []

/-- A carriage return in front of a pair, a break of three bytes, and a last line without an ending. -/
theorem lines_exact_returns :
    let body := "é\r\r\nb\u2028c".toList
    let run : List EndedLine :=
      [⟨['é'], ['\r']⟩, ⟨[], ['\r', '\n']⟩, ⟨['b'], ['\u2028']⟩, ⟨['c'], []⟩]
    IsRun run ∧ joined run = body ∧ lines body = run.map EndedLine.line ∧ Unbroken ['b'] ∧
      List.Forall₂ (CutOut body) [(0, 2), (3, 3), (5, 6), (9, 10)] (lines body) := by
  intro body run
  have isRun : IsRun run :=
    .cons (by decide) ⟨.inr ⟨'\r', by decide, rfl⟩, by decide⟩
      (.cons (by decide) ⟨.inl rfl, by decide⟩
        (.cons (by decide) ⟨.inr ⟨'\u2028', by decide, rfl⟩, by decide⟩ (.last (by decide) (by decide))))
  have whole : joined run = body := by decide
  obtain ⟨-, unbroken, ⟨found, -, -, held, only⟩, cut⟩ := lines_exact body
  obtain rfl := only run isRun whole
  refine ⟨isRun, whole, held.symm, ?_, cut⟩
  apply unbroken
  rw [← held]
  decide

end ReleaseNotes
