import Mathlib.Data.List.DropRight
import Mathlib.Data.List.TakeDrop
import ReleaseNotes.Text.Space

/-! Texts and the space around and between their words. Trimming leaves nothing or a trimmed text, and a
trimmed text of several words is cut before its last word in one way only. -/
namespace ReleaseNotes.Text

/-- A run of space. -/
structure Gap (text : Text) : Prop where
  given : text ≠ []
  blank : ∀ c ∈ text, isSpace c = true

/-- A run without space. -/
structure Solid (text : Text) : Prop where
  given : text ≠ []
  solid : ∀ c ∈ text, isSpace c = false

def StartsSolid (text : Text) : Prop :=
  ∀ c, text.head? = some c → isSpace c = false

def EndsSolid (text : Text) : Prop :=
  ∀ c, text.getLast? = some c → isSpace c = false

/-- Something that has no space around it. -/
structure Trimmed (text : Text) : Prop where
  given : text ≠ []
  starts : StartsSolid text
  ends : EndsSolid text

theorem gap_iff {text : Text} : Gap text ↔ text ≠ [] ∧ text.all isSpace = true := by
  rw [List.all_eq_true]
  exact ⟨fun space => ⟨space.given, space.blank⟩, fun ⟨given, blank⟩ => ⟨given, blank⟩⟩

theorem solid_iff {text : Text} : Solid text ↔ text ≠ [] ∧ text.all (!isSpace ·) = true := by
  simp only [List.all_eq_true, Bool.not_eq_true']
  exact ⟨fun word => ⟨word.given, word.solid⟩, fun ⟨given, solid⟩ => ⟨given, solid⟩⟩

theorem startsSolid_iff {text : Text} : StartsSolid text ↔ text.head?.all (!isSpace ·) = true := by
  simp [StartsSolid, Option.all_eq_true]

theorem endsSolid_iff {text : Text} : EndsSolid text ↔ text.getLast?.all (!isSpace ·) = true := by
  simp [EndsSolid, Option.all_eq_true]

theorem trimmed_iff {text : Text} : Trimmed text ↔ text ≠ [] ∧ StartsSolid text ∧ EndsSolid text :=
  ⟨fun trimmed => ⟨trimmed.given, trimmed.starts, trimmed.ends⟩,
    fun ⟨given, starts, ends⟩ => ⟨given, starts, ends⟩⟩

instance (text : Text) : Decidable (Gap text) := decidable_of_iff _ gap_iff.symm
instance (text : Text) : Decidable (Solid text) := decidable_of_iff _ solid_iff.symm
instance (text : Text) : Decidable (StartsSolid text) := decidable_of_iff _ startsSolid_iff.symm
instance (text : Text) : Decidable (EndsSolid text) := decidable_of_iff _ endsSolid_iff.symm
instance (text : Text) : Decidable (Trimmed text) := decidable_of_iff _ trimmed_iff.symm

theorem gap_cons_iff {c : Char} {text : Text} :
    Gap (c :: text) ↔ isSpace c = true ∧ ∀ d ∈ text, isSpace d = true := by
  simp [gap_iff]

theorem Solid.endsSolid {text : Text} (word : Solid text) : EndsSolid text :=
  fun c last => word.solid c (List.mem_of_getLast? last)

theorem Solid.startsSolid {text : Text} (word : Solid text) : StartsSolid text :=
  fun c first => word.solid c (List.mem_of_head? first)

theorem endsSolid_append (front : Text) {text : Text} (given : text ≠ []) :
    EndsSolid (front ++ text) ↔ EndsSolid text := by
  simp [EndsSolid, List.getLast?_append_of_ne_nil front given]

theorem startsSolid_append {text : Text} (rest : Text) (given : text ≠ []) :
    StartsSolid (text ++ rest) ↔ StartsSolid text := by
  simp [StartsSolid, List.head?_append_of_ne_nil text given]

theorem Solid.endsSolid_append {text : Text} (word : Solid text) (front : Text) :
    EndsSolid (front ++ text) :=
  (Text.endsSolid_append front word.given).mpr word.endsSolid

theorem Solid.startsSolid_append {text : Text} (word : Solid text) (rest : Text) :
    StartsSolid (text ++ rest) :=
  (Text.startsSolid_append rest word.given).mpr word.startsSolid

theorem Trimmed.endsSolid_append {text : Text} (trimmed : Trimmed text) (front : Text) :
    EndsSolid (front ++ text) :=
  (Text.endsSolid_append front trimmed.given).mpr trimmed.ends

theorem trimStart_append_of_blank {gap : Text} (blank : ∀ c ∈ gap, isSpace c = true) (text : Text) :
    trimStart (gap ++ text) = trimStart text :=
  List.dropWhile_append_of_pos blank

theorem trimStart_of_startsSolid {text : Text} (starts : StartsSolid text) : trimStart text = text := by
  cases text with
  | nil => rfl
  | cons c text => exact trimStart_cons_of_not_space text (starts c rfl)

theorem startsSolid_trimStart (text : Text) : StartsSolid (trimStart text) := by
  intro c first
  have stopped := List.head?_dropWhile_not isSpace text
  unfold trimStart at first
  simpa [first] using stopped

theorem exists_trimStart (text : Text) :
    ∃ gap, text = gap ++ trimStart text ∧ ∀ c ∈ gap, isSpace c = true :=
  ⟨text.takeWhile isSpace, List.takeWhile_append_dropWhile.symm, fun _ => List.mem_takeWhile_imp⟩

theorem trimEnd_append_of_blank (text : Text) {gap : Text} (blank : ∀ c ∈ gap, isSpace c = true) :
    trimEnd (text ++ gap) = trimEnd text := by
  unfold trimEnd
  rw [List.reverse_append, List.dropWhile_append_of_pos (by simpa using blank)]

theorem trimEnd_of_endsSolid {text : Text} (ends : EndsSolid text) : trimEnd text = text := by
  refine List.rdropWhile_eq_self_iff.mpr fun given => ?_
  simp [ends _ (List.getLast?_eq_getLast_of_ne_nil given)]

theorem endsSolid_trimEnd (text : Text) : EndsSolid (trimEnd text) := by
  intro c last
  have given : trimEnd text ≠ [] := by
    rintro nothing
    simp [nothing] at last
  have stopped := List.rdropWhile_last_not isSpace text given
  rw [List.getLast?_eq_getLast_of_ne_nil given, Option.some.injEq] at last
  subst last
  exact Bool.eq_false_iff.mpr stopped

theorem exists_trimEnd (text : Text) :
    ∃ gap, text = trimEnd text ++ gap ∧ ∀ c ∈ gap, isSpace c = true :=
  ⟨text.rtakeWhile isSpace, (List.rdropWhile_append_rtakeWhile).symm,
    fun _ => List.mem_rtakeWhile_imp⟩

theorem Trimmed.trim_eq {text : Text} (trimmed : Trimmed text) : trim text = text := by
  rw [trim, trimStart_of_startsSolid trimmed.starts, trimEnd_of_endsSolid trimmed.ends]

theorem trimmed_trim {text : Text} (given : trim text ≠ []) : Trimmed (trim text) := by
  refine ⟨given, ?_, endsSolid_trimEnd _⟩
  obtain ⟨gap, cut, -⟩ := exists_trimEnd (trimStart text)
  have starts := startsSolid_trimStart text
  rw [cut] at starts
  exact (startsSolid_append gap given).mp starts

theorem trim_isInfix (text : Text) : trim text <:+: text :=
  (List.rdropWhile_prefix isSpace _).isInfix.trans (List.dropWhile_suffix isSpace).isInfix

/-- Trimming takes space off both ends and nothing else. -/
theorem exists_trim (text : Text) :
    ∃ before after, text = before ++ trim text ++ after ∧ (∀ c ∈ before, isSpace c = true) ∧
      ∀ c ∈ after, isSpace c = true := by
  obtain ⟨before, cutStart, blankBefore⟩ := exists_trimStart text
  obtain ⟨after, cutEnd, blankAfter⟩ := exists_trimEnd (trimStart text)
  refine ⟨before, after, ?_, blankBefore, blankAfter⟩
  rw [List.append_assoc, trim, ← cutEnd, ← cutStart]

theorem trim_of_blank_around {before text after : Text} (blankBefore : ∀ c ∈ before, isSpace c = true)
    (trimmed : Trimmed text) (blankAfter : ∀ c ∈ after, isSpace c = true) :
    trim (before ++ text ++ after) = text := by
  have starts : StartsSolid (text ++ after) := (startsSolid_append after trimmed.given).mpr trimmed.starts
  rw [trim, List.append_assoc, trimStart_append_of_blank blankBefore, trimStart_of_startsSolid starts,
    trimEnd_append_of_blank text blankAfter, trimEnd_of_endsSolid trimmed.ends]

theorem startsSolid_trim (text : Text) : StartsSolid (trim text) := by
  by_cases nothing : trim text = []
  · simp [nothing, StartsSolid]
  · exact (trimmed_trim nothing).starts

theorem endsSolid_trim (text : Text) : EndsSolid (trim text) :=
  endsSolid_trimEnd _

@[simp] theorem trim_trim (text : Text) : trim (trim text) = trim text := by
  rw [trim, trimStart_of_startsSolid (startsSolid_trim text), trimEnd_of_endsSolid (endsSolid_trim text)]

theorem trim_eq_nil_iff {text : Text} : trim text = [] ↔ ∀ c ∈ text, isSpace c = true := by
  constructor
  · intro nothing
    obtain ⟨before, after, whole, blankBefore, blankAfter⟩ := exists_trim text
    rw [nothing, List.append_nil] at whole
    rw [whole]
    exact List.forall_mem_append.mpr ⟨blankBefore, blankAfter⟩
  · intro blank
    have nothing : trimStart text = [] := List.dropWhile_eq_nil_iff.mpr blank
    rw [trim, nothing, trimEnd_nil]

theorem startsWithSpace_append {gap : Text} (space : Gap gap) (rest : Text) :
    startsWithSpace (gap ++ rest) = true := by
  obtain ⟨c, more, rfl⟩ := List.exists_cons_of_ne_nil space.given
  exact space.blank c (by simp)

theorem exists_gap_of_startsWithSpace {text : Text} (space : startsWithSpace text = true) :
    ∃ gap, Gap gap ∧ text = gap ++ trimStart text := by
  obtain ⟨gap, cut, blank⟩ := exists_trimStart text
  refine ⟨gap, ⟨?_, blank⟩, cut⟩
  rintro rfl
  cases text with
  | nil => simp [startsWithSpace] at space
  | cons c rest =>
    rw [List.nil_append] at cut
    have solid := startsSolid_trimStart (c :: rest) c
    rw [← cut] at solid
    rw [startsWithSpace, solid rfl] at space
    exact Bool.false_ne_true space

/-- A span is the whole run in front, and stops at a character that is not of its class. -/
theorem span_eq_iff {p : Char → Bool} {text run rest : Text} :
    text.span p = (run, rest) ↔ text = run ++ rest ∧ (∀ c ∈ run, p c = true) ∧
      ∀ c, rest.head? = some c → p c = false := by
  rw [List.span_eq_takeWhile_dropWhile, Prod.mk.injEq]
  constructor
  · rintro ⟨rfl, rfl⟩
    refine ⟨List.takeWhile_append_dropWhile.symm, fun _ => List.mem_takeWhile_imp, ?_⟩
    intro c first
    have stopped := List.head?_dropWhile_not p text
    simpa [first] using stopped
  · rintro ⟨rfl, inside, boundary⟩
    rw [List.takeWhile_append_of_pos inside, List.dropWhile_append_of_pos inside]
    cases rest with
    | nil => simp
    | cons c rest => simp [boundary c rfl]

theorem span_ne_eq_iff {c : Char} {text run rest : Text} :
    text.span (· != c) = (run, rest) ↔
      text = run ++ rest ∧ c ∉ run ∧ (rest = [] ∨ rest.head? = some c) := by
  rw [span_eq_iff]
  refine and_congr_right fun _ => and_congr ?_ ?_
  · constructor
    · intro inside member
      simpa using inside c member
    · rintro absent d member
      rw [bne_iff_ne]
      rintro rfl
      exact absent member
  · cases rest <;> simp

@[simp] theorem splitLastWord_nil : splitLastWord [] = ([], []) := rfl

theorem splitLastWord_append {front gap word : Text} (ends : EndsSolid front) (space : Gap gap)
    (last : Solid word) : splitLastWord (front ++ gap ++ word) = (front, word) := by
  have cut : (front ++ gap ++ word).reverse.span (!isSpace ·) =
      (word.reverse, (front ++ gap).reverse) := by
    refine span_eq_iff.mpr ⟨by simp, ?_, ?_⟩
    · intro c member
      simp [last.solid c (List.mem_reverse.mp member)]
    · intro c first
      rw [List.head?_reverse, List.getLast?_append_of_ne_nil front space.given] at first
      simp [space.blank c (List.mem_of_getLast? first)]
  simp only [splitLastWord, cut, List.reverse_reverse]
  rw [trimEnd_append_of_blank front space.blank, trimEnd_of_endsSolid ends]

theorem ne_nil_of_splitLastWord {text front word : Text} (cut : splitLastWord text = (front, word))
    (given : word ≠ []) : text ≠ [] := by
  rintro rfl
  rw [splitLastWord_nil, Prod.mk.injEq] at cut
  exact given cut.2.symm

/-- What is cut off as the last word has no space in it, and a gap sets it off from what stands in front. -/
theorem splitLastWord_cut {text front word : Text} (cut : splitLastWord text = (front, word))
    (before : front ≠ []) (given : word ≠ []) :
    ∃ gap, Gap gap ∧ Solid word ∧ EndsSolid front ∧ text = front ++ gap ++ word := by
  unfold splitLastWord at cut
  cases spanned : text.reverse.span (!isSpace ·) with
  | mk run rest =>
    rw [spanned] at cut
    simp only [Prod.mk.injEq] at cut
    obtain ⟨rfl, rfl⟩ := cut
    obtain ⟨whole, inside, boundary⟩ := span_eq_iff.mp spanned
    obtain ⟨gap, trimmed, blank⟩ := exists_trimEnd rest.reverse
    refine ⟨gap, ⟨?_, blank⟩, ⟨given, ?_⟩, endsSolid_trimEnd _, ?_⟩
    · -- Without a gap the text in front would end in the character that stopped the word.
      rintro rfl
      rw [List.append_nil] at trimmed
      have ends := endsSolid_trimEnd rest.reverse
      rw [← trimmed] at ends before
      obtain ⟨c, tail, rfl⟩ := List.exists_cons_of_ne_nil (List.reverse_ne_nil_iff.mp before)
      have stopped := boundary c rfl
      simp [ends c (by simp)] at stopped
    · intro c member
      simpa using inside c (List.mem_reverse.mp member)
    · rw [← trimmed, ← List.reverse_append, ← whole, List.reverse_reverse]

theorem lastWord_unique {front gap word front' gap' word' : Text} (ends : EndsSolid front)
    (space : Gap gap) (last : Solid word) (ends' : EndsSolid front') (space' : Gap gap')
    (last' : Solid word') (same : front ++ gap ++ word = front' ++ gap' ++ word') :
    front = front' ∧ gap = gap' ∧ word = word' := by
  have cut := splitLastWord_append ends space last
  rw [same, splitLastWord_append ends' space' last', Prod.mk.injEq] at cut
  obtain ⟨rfl, rfl⟩ := cut
  exact ⟨rfl, List.append_cancel_left (List.append_cancel_right same), rfl⟩

/-- The number of words that begin behind a space. -/
def innerWords : Text → Nat
  | c :: d :: rest => (isSpace c && !isSpace d).toNat + innerWords (d :: rest)
  | _ => 0

theorem innerWords_append (front rest : Text) :
    innerWords (front ++ rest) = innerWords front +
      (front.getLast?.any isSpace && rest.head?.any (!isSpace ·)).toNat + innerWords rest := by
  induction front with
  | nil => simp [innerWords]
  | cons c front ih =>
    cases front with
    | nil =>
      cases rest with
      | nil => simp [innerWords]
      | cons d rest => simp [innerWords]
    | cons d front =>
      simp only [List.cons_append, innerWords, List.getLast?_cons_cons] at ih ⊢
      omega

theorem innerWords_of_blank {text : Text} (blank : ∀ c ∈ text, isSpace c = true) :
    innerWords text = 0 := by
  induction text with
  | nil => rfl
  | cons c text ih =>
    cases text with
    | nil => rfl
    | cons d text => simp_all [innerWords]

theorem innerWords_of_solid {text : Text} (solid : ∀ c ∈ text, isSpace c = false) :
    innerWords text = 0 := by
  induction text with
  | nil => rfl
  | cons c text ih =>
    cases text with
    | nil => rfl
    | cons d text => simp_all [innerWords]

theorem Gap.endsBlank {gap : Text} (space : Gap gap) : gap.getLast?.any isSpace = true := by
  rw [List.getLast?_eq_getLast_of_ne_nil space.given, Option.any_some]
  exact space.blank _ (List.getLast_mem space.given)

theorem StartsSolid.any {text : Text} (starts : StartsSolid text) (given : text ≠ []) :
    text.head?.any (!isSpace ·) = true := by
  obtain ⟨c, tail, rfl⟩ := List.exists_cons_of_ne_nil given
  simpa using starts c rfl

theorem innerWords_word_gap {word gap rest : Text} (first : Solid word) (space : Gap gap)
    (starts : StartsSolid rest) (given : rest ≠ []) :
    innerWords (word ++ gap ++ rest) = innerWords rest + 1 := by
  have inGap : innerWords (word ++ gap) = 0 := by
    obtain ⟨c, tail, rfl⟩ := List.exists_cons_of_ne_nil space.given
    rw [innerWords_append, innerWords_of_solid first.solid, innerWords_of_blank space.blank]
    simp [space.blank c (by simp)]
  have ends : (word ++ gap).getLast?.any isSpace = true := by
    rw [List.getLast?_append_of_ne_nil word space.given]
    exact space.endsBlank
  rw [innerWords_append, inGap, ends, starts.any given]
  simp
  omega

end ReleaseNotes.Text
