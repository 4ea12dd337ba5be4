import ReleaseNotes.Proofs.Attribution
import ReleaseNotes.Proofs.Lowercased
import ReleaseNotes.Proofs.Precedence
import ReleaseNotes.Proofs.Subject

/-! Lines that go on. What follows a line changes nothing of its lower case but the form of a last sigma, which
no rule looks at, so a rule that fires on a line fires on every longer one, and the rule that decides can
only become an earlier one. -/
namespace ReleaseNotes

open Text

namespace Text

/-- One form for both small sigmas. -/
def foldSigma (c : Char) : Char :=
  if c = 'ς' then 'σ' else c

/-- The lower case of a character whatever stands around it. -/
def lowerAlone (c : Char) : Text :=
  (lowerBetween [] c []).map foldSigma

theorem foldSigma_eq_iff {letter : Char} (other : letter ∉ ['σ', 'ς']) (c : Char) :
    foldSigma c = letter ↔ c = letter := by
  simp only [List.mem_cons, List.not_mem_nil, or_false, not_or] at other
  unfold foldSigma
  split <;> grind

theorem foldSigma_beq (letter c : Char) (other : letter ∉ ['σ', 'ς'] := by decide) :
    (foldSigma c == letter) = (c == letter) := by
  rw [Bool.eq_iff_iff, beq_iff_eq, beq_iff_eq, foldSigma_eq_iff other]

@[simp] theorem isWord_foldSigma (c : Char) : isWord (foldSigma c) = isWord c := by
  by_cases final : c = 'ς'
  · subst final
    decide
  · rw [foldSigma, if_neg final]

theorem lowerBetween_sigma (before after : Text) : lowerBetween before 'Σ' after ∈ [['σ'], ['ς']] := by
  have small : lowerChar 'Σ' = 'σ' := by decide
  rw [lowerBetween, if_neg (by decide), small]
  split <;> simp

theorem map_foldSigma_lowerBetween (before : Text) (c : Char) (after : Text) :
    (lowerBetween before c after).map foldSigma = lowerAlone c := by
  have oneForm : ∀ lower ∈ [['σ'], ['ς']], lower.map foldSigma = ['σ'] := by decide
  by_cases sigma : c = 'Σ'
  · subst sigma
    rw [lowerAlone, oneForm _ (lowerBetween_sigma before after), oneForm _ (lowerBetween_sigma [] [])]
  · simp [lowerAlone, lowerBetween, sigma]

theorem map_foldSigma_lowercaseAfter (before text : Text) :
    (lowercaseAfter before text).map foldSigma = text.flatMap lowerAlone := by
  induction text generalizing before with
  | nil => rfl
  | cons c rest ih =>
    rw [lowercaseAfter, List.map_append, map_foldSigma_lowerBetween, ih, List.flatMap_cons]

theorem map_foldSigma_lowercase (text : Text) :
    (lowercase text).map foldSigma = text.flatMap lowerAlone :=
  map_foldSigma_lowercaseAfter [] text

theorem lowerAlone_of_ascii {c : Char} (ascii : c.toNat < 128) : lowerAlone c = [foldAscii c] := by
  have code := toNat_foldAscii c
  have other : foldAscii c ≠ 'ς' := by
    rw [ne_eq, ← Char.toNat_inj, code]
    split <;> simp <;> omega
  rw [lowerAlone, lowerBetween_of_ascii [] ascii, List.map_singleton, foldSigma, if_neg other]

theorem flatMap_lowerAlone_of_ascii {text : Text} (ascii : ∀ c ∈ text, c.toNat < 128) :
    text.flatMap lowerAlone = text.map foldAscii := by
  induction text with
  | nil => rfl
  | cons c rest ih =>
    have tail := ih fun d member => ascii d (List.mem_cons_of_mem c member)
    rw [List.flatMap_cons, lowerAlone_of_ascii (ascii c (by simp)), tail]
    rfl

theorem trimEnd_append_of_endsSolid {front : Text} (ends : EndsSolid front) (text : Text) :
    trimEnd (front ++ text) = front ++ trimEnd text := by
  obtain ⟨gap, cut, blank⟩ := exists_trimEnd text
  have solid : EndsSolid (front ++ trimEnd text) := by
    by_cases nothing : trimEnd text = []
    · rwa [nothing, List.append_nil]
    · exact (endsSolid_append front nothing).mpr (endsSolid_trimEnd text)
  calc trimEnd (front ++ text)
      = trimEnd (front ++ trimEnd text ++ gap) := by rw [List.append_assoc, ← cut]
    _ = front ++ trimEnd text := by rw [trimEnd_append_of_blank _ blank, trimEnd_of_endsSolid solid]

theorem trim_append_solid {word : Text} (solid : Solid word) (front : Text) :
    trim (front ++ word) = trimStart front ++ word := by
  have cut : trimStart (front ++ word) = trimStart front ++ word := by
    have stays := trimStart_of_startsSolid solid.startsSolid
    unfold trimStart at stays ⊢
    rw [List.dropWhile_append, stays]
    split
    · rename_i nothing
      rw [List.isEmpty_iff.mp nothing, List.nil_append]
    · rfl
  rw [trim, cut, trimEnd_of_endsSolid (solid.endsSolid_append _)]

/-- A line that goes on keeps what it is without the space around it, unless it is nothing but space. -/
theorem exists_trim_append {line : Text} (given : trim line ≠ []) (more : Text) :
    ∃ tail, trim (line ++ more) = trim line ++ tail := by
  obtain ⟨before, after, whole, blank, -⟩ := exists_trim line
  have trimmed := trimmed_trim given
  have starts : StartsSolid (trim line ++ (after ++ more)) := (startsSolid_append _ given).mpr trimmed.starts
  refine ⟨trimEnd (after ++ more), ?_⟩
  calc trim (line ++ more)
      = trim (before ++ (trim line ++ (after ++ more))) := by
        rw [← List.append_assoc, ← List.append_assoc, ← whole]
    _ = trimEnd (trim line ++ (after ++ more)) := by
        rw [trim, trimStart_append_of_blank blank, trimStart_of_startsSolid starts]
    _ = trim line ++ trimEnd (after ++ more) := trimEnd_append_of_endsSolid trimmed.ends _

theorem map_foldSigma_eq_iff {pattern : Text} (plain : ∀ letter ∈ pattern, letter ∉ ['σ', 'ς'])
    (text : Text) : text.map foldSigma = pattern ↔ text = pattern := by
  induction pattern generalizing text with
  | nil => simp
  | cons letter pattern ih =>
    cases text with
    | nil => simp
    | cons c text =>
      rw [List.map_cons, List.cons.injEq, List.cons.injEq, foldSigma_eq_iff (plain letter (by simp)),
        ih fun other member => plain other (by simp [member])]

theorem occurs_map_foldSigma {pattern : Text} (plain : ∀ letter ∈ pattern, letter ∉ ['σ', 'ς'])
    (text : Text) : occurs pattern (text.map foldSigma) = occurs pattern text := by
  rw [Bool.eq_iff_iff, occurs_iff_isInfix, occurs_iff_isInfix, List.infix_map_iff]
  constructor
  · rintro ⟨part, inside, same⟩
    rwa [← (map_foldSigma_eq_iff plain part).mp same.symm]
  · intro inside
    exact ⟨pattern, inside, ((map_foldSigma_eq_iff plain pattern).mpr rfl).symm⟩

end Text

namespace Kind

theorem heads_map_foldSigma (kind : Kind) (text : Text) : kind.heads (text.map foldSigma) = kind.heads text := by
  have plain : ∀ letter ∈ kind.word, letter ∉ ['σ', 'ς'] := by
    intro letter member greek
    obtain ⟨-, high, -⟩ := kind.letters_of_word letter member
    simp only [List.mem_cons, List.not_mem_nil, or_false] at greek
    rcases greek with rfl | rfl <;> contradiction
  have dropped : dropWord? id kind.word (text.map foldSigma) =
      (dropWord? id kind.word text).map (·.map foldSigma) :=
    dropWord?_map (fun letter member c => foldSigma_eq_iff (plain letter member) c) text
  rw [heads, heads, dropped]
  rcases dropWord? id kind.word text with _ | _ | ⟨c, rest⟩
  · rfl
  · rfl
  · simp [foldSigma_beq '(' c, foldSigma_beq ':' c]

theorem anyNamed_map_foldSigma (kinds : List Kind) (free : Bool) (text : Text) :
    anyNamed kinds free (text.map foldSigma) = anyNamed kinds free text := by
  induction text generalizing free with
  | nil => rfl
  | cons c rest ih =>
    have heads : ∀ kind : Kind, kind.heads (foldSigma c :: rest.map foldSigma) = kind.heads (c :: rest) :=
      fun kind => kind.heads_map_foldSigma (c :: rest)
    simp only [List.map_cons, anyNamed, heads, isWord_foldSigma, ih]

theorem anyNamed_append {kinds : List Kind} {free : Bool} {text : Text}
    (named : anyNamed kinds free text = true) (more : Text) :
    anyNamed kinds free (text ++ more) = true := by
  obtain ⟨kind, member, before, ⟨mark, after, whole, marks, boundary⟩, first⟩ :=
    (anyNamed_iff kinds free text).mp named
  apply (anyNamed_iff kinds free (text ++ more)).mpr
  exact ⟨kind, member, before, ⟨mark, after ++ more, by simp [whole], marks, boundary⟩, first⟩

end Kind

namespace Rule

/-- No rule tells the two small sigmas apart. -/
theorem fires_map_foldSigma (rule : Rule) (text : Text) :
    rule.fires (text.map foldSigma) = rule.fires text := by
  have marked : ((text.map foldSigma).takeWhile (· != ':')).contains '!' =
      (text.takeWhile (· != ':')).contains '!' := by
    have colon : (· != ':') ∘ foldSigma = (· != ':') := by
      funext c
      simp [bne, foldSigma_beq ':' c]
    rw [List.takeWhile_map, colon, Bool.eq_iff_iff, List.contains_iff_mem, List.contains_iff_mem, List.mem_map]
    simp [foldSigma_eq_iff]
  cases rule
  case rest => rfl
  case breakingMark => exact marked
  case feature | fix | change | upkeep | revert => exact Kind.anyNamed_map_foldSigma _ true text
  case securityMark | breakingPhrase | deprecation | removal =>
    simp only [fires]
    repeat rw [occurs_map_foldSigma (by simp)]

/-- A rule that fires on a text fires on every longer one. -/
theorem fires_append {rule : Rule} {text : Text} (fired : rule.fires text = true) (more : Text) :
    rule.fires (text ++ more) = true := by
  have goesOn : ∀ {pattern : Text}, occurs pattern text = true → occurs pattern (text ++ more) = true := by
    intro pattern inside
    rw [occurs_iff_isInfix] at inside ⊢
    exact inside.trans (List.prefix_append text more).isInfix
  cases rule
  case rest => rfl
  case breakingMark =>
    simp only [fires, List.contains_iff_mem, List.takeWhile_append] at fired ⊢
    split
    · exact List.mem_append_left _ ((List.takeWhile_prefix _).subset fired)
    · exact fired
  case feature | fix | change | upkeep | revert => exact Kind.anyNamed_append fired more
  case breakingPhrase | deprecation => exact goesOn fired
  case securityMark =>
    simp only [fires, Bool.or_eq_true] at fired ⊢
    exact fired.imp goesOn goesOn
  case removal =>
    simp only [fires, Bool.or_eq_true] at fired ⊢
    exact fired.imp (Or.imp goesOn goesOn) goesOn

theorem fires_lowercase_iff {rule : Rule} {text : Text} :
    rule.fires (lowercase text) = true ↔ rule.fires (text.flatMap lowerAlone) = true := by
  rw [← map_foldSigma_lowercase, fires_map_foldSigma]

theorem eq_rest_of_fires_nil {rule : Rule} (fired : rule.fires [] = true) : rule = .rest := by
  revert fired
  cases rule <;> decide

theorem fires_of_continued {rule : Rule} {line : Text} (fired : rule.fires (lowercase (trim line)) = true)
    (more : Text) : rule.fires (lowercase (trim (line ++ more))) = true := by
  by_cases nothing : trim line = []
  · rw [nothing] at fired
    obtain rfl := eq_rest_of_fires_nil fired
    rfl
  · obtain ⟨tail, longer⟩ := exists_trim_append nothing more
    rw [longer, fires_lowercase_iff, List.flatMap_append]
    exact fires_append (fires_lowercase_iff.mp fired) _

theorem rank_deciding_append_le (line more : Text) : (deciding (line ++ more)).rank ≤ (deciding line).rank :=
  rank_deciding_le (fires_of_continued (fires_deciding line) more)

theorem fires_securityMark_of_ends (front : Text) {mark : Text}
    (spelled : Spells mark "security".toList ∨ Spells mark "cve-".toList) :
    securityMark.fires (lowercase (trim (front ++ mark))) = true := by
  have found : ∀ {word : Text}, Spells mark word → Solid word → (∀ letter ∈ word, letter.toNat < 128) →
      occurs word ((trim (front ++ mark)).flatMap lowerAlone) = true := by
    intro word spells solid ascii
    rw [trim_append_solid (spells.solid solid), List.flatMap_append,
      flatMap_lowerAlone_of_ascii (spells.ascii ascii), occurs_iff_isInfix]
    exact ⟨_, [], by rw [List.append_nil]; exact congrArg _ spells.symm⟩
  rw [fires_lowercase_iff, fires, Bool.or_eq_true]
  exact spelled.imp (found · (by decide) (by simp)) (found · (by decide) (by simp))

/-- The first rule that fires on a line comes no later once something follows the line. So a security mark in a
line decides whatever follows it, and a credit behind a line can only raise the rule. -/
theorem deciding_append :
    (∀ line : Text, (deciding line).rank = all.findIdx (·.fires (lowercase (trim line)))) ∧
    (∀ line more : Text, (deciding (line ++ more)).rank ≤ (deciding line).rank) ∧
    (∀ line more mark : Text, mark <:+: line →
      Spells mark "security".toList ∨ Spells mark "cve-".toList → sectionOf (line ++ more) = .security) ∧
    ∀ (line : Text) (credit : Credit), (deciding (line ++ credit.text)).rank ≤ (deciding line).rank := by
  refine ⟨rank_deciding, rank_deciding_append_le, ?_, fun line credit => rank_deciding_append_le line credit.text⟩
  rintro line more mark ⟨front, rest, rfl⟩ spelled
  have fired := fires_of_continued (fires_securityMark_of_ends front spelled) (rest ++ more)
  have decides : deciding (front ++ mark ++ rest ++ more) = .securityMark := by
    rw [List.append_assoc]
    exact deciding_of_securityMarked (fires_securityMark_iff.mp fired)
  rw [sectionOf, decides]
  rfl

/-- A mark in the middle of a removal, before a sigma that the rest of the line makes another one. -/
theorem deciding_append_removal :
    let line := "drop Cve-1 in ΟΔΟΣ".toList
    ("Cve-".toList <:+: line ∧ Spells "Cve-".toList "cve-".toList) ∧
      sectionOf (line ++ "ΑΣ feat: x".toList) = .security := by
  have inside : "Cve-".toList <:+: "drop Cve-1 in ΟΔΟΣ".toList :=
    ⟨"drop ".toList, "1 in ΟΔΟΣ".toList, by decide⟩
  have spelled : Spells "Cve-".toList "cve-".toList := by decide
  exact ⟨⟨inside, spelled⟩, deciding_append.2.2.1 _ _ _ inside (.inr spelled)⟩

end Rule

end ReleaseNotes
