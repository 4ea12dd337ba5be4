import ReleaseNotes.Commit.Item
import ReleaseNotes.Proofs.LetterCase
import ReleaseNotes.Proofs.Trimmed

/-! Attributed lines by their grammar. Every line has at most one reading, and `Item.parse?` finds it: the
attribution is the last one in the line, whatever the subject in front of it says. -/
namespace ReleaseNotes

open Text

/-- `http` or `https` in any capitals, where a long s passes for an s, then `://` and something. -/
def IsWebAddress (link : Text) : Prop :=
  ∃ scheme mark path, link = scheme ++ mark ++ "://".toList ++ path ∧ Spells scheme "http".toList ∧
    mark ∈ [[], ['s'], ['S'], ['\u017f']] ∧ Solid path

/-- Who made a change and where, each word behind a gap: `by @author in link`. -/
structure Credit where
  beforeBy : Text
  byWord : Text
  beforeAuthor : Text
  author : Text
  beforeIn : Text
  inWord : Text
  beforeLink : Text
  link : Text
  gaps : ∀ gap ∈ [beforeBy, beforeAuthor, beforeIn, beforeLink], Gap gap
  saysBy : Spells byWord "by".toList
  saysIn : Spells inWord "in".toList
  named : Solid author
  linked : IsWebAddress link

def Credit.text (credit : Credit) : Text :=
  credit.beforeBy ++ credit.byWord ++ credit.beforeAuthor ++ '@' :: credit.author ++
    credit.beforeIn ++ credit.inWord ++ credit.beforeLink ++ credit.link

/-- A credit with single spaces, `by` and `in` in small letters. -/
def Credit.plain (author link : Text) (named : Solid author) (linked : IsWebAddress link) : Credit where
  beforeBy := [' ']
  byWord := "by".toList
  beforeAuthor := [' ']
  author := author
  beforeIn := [' ']
  inWord := "in".toList
  beforeLink := [' ']
  link := link
  gaps := by decide
  saysBy := by decide
  saysIn := by decide
  named := named
  linked := linked

/-- A line with its credit split off. -/
structure Attribution where
  subject : Text
  credit : Credit
  trimmed : Trimmed subject
  oneLine : '\n' ∉ subject

namespace Attribution

def text (a : Attribution) : Text :=
  a.subject ++ a.credit.text

def item (a : Attribution) : Item where
  subject := a.subject
  author := a.credit.author
  link := a.credit.link
  pull := Item.pullNumber? a.credit.link
  conventional := Subject.parse? a.subject

end Attribution

theorem exists_schemeMark (text : Text) :
    ∃ mark ∈ [[], ['s'], ['S'], ['\u017f']],
      text = mark ++ (dropWord? foldSimple ['s'] text).getD text := by
  cases dropped : dropWord? foldSimple ['s'] text with
  | none => exact ⟨[], by simp, rfl⟩
  | some rest =>
    obtain ⟨mark, rfl, folded⟩ := dropWord?_eq_some_iff.mp dropped
    obtain ⟨c, rfl, letter⟩ := List.map_eq_singleton_iff.mp folded
    refine ⟨[c], ?_, rfl⟩
    rcases (foldSimple_eq_s_iff c).mp letter with rfl | rfl | rfl <;> simp

theorem dropSchemeMark {mark : Text} (optional : mark ∈ [[], ['s'], ['S'], ['\u017f']]) (rest : Text) :
    (dropWord? foldSimple ['s'] (mark ++ "://".toList ++ rest)).getD
      (mark ++ "://".toList ++ rest) = "://".toList ++ rest := by
  simp only [List.mem_cons, List.not_mem_nil, or_false] at optional
  have colon : foldSimple ':' ≠ 's' := by decide
  rcases optional with rfl | rfl | rfl | rfl
  · simp [dropWord?, colon]
  all_goals
    rw [List.append_assoc, dropWord?_append (by decide), Option.getD_some]

theorem plain_http : ∀ letter ∈ "http".toList, letter ∉ ['s', 'k', '\u017f', '\u212a'] := by
  have letters : "http".toList = ['h', 't', 't', 'p'] := by decide
  simp [letters]

theorem cuts_of_isLink {word : Text} (accepted : Item.isLink word = true) :
    ∃ rest c path, dropWord? foldSimple "http".toList word = some rest ∧
      dropWord? id "://".toList ((dropWord? foldSimple ['s'] rest).getD rest) = some (c :: path) := by
  unfold Item.isLink at accepted
  split at accepted
  case h_2 => contradiction
  case h_1 rest opened =>
    split at accepted
    case h_2 => contradiction
    case h_1 c path separated => exact ⟨rest, c, path, opened, separated⟩

theorem isLink_iff {word : Text} (solid : ∀ c ∈ word, isSpace c = false) :
    Item.isLink word = true ↔ IsWebAddress word := by
  constructor
  · intro accepted
    obtain ⟨rest, c, path, opened, separated⟩ := cuts_of_isLink accepted
    obtain ⟨scheme, rfl, spelled⟩ := dropWord?_eq_some_iff.mp opened
    obtain ⟨mark, optional, cut⟩ := exists_schemeMark rest
    obtain ⟨colon, tail, same⟩ := dropWord?_eq_some_iff.mp separated
    rw [List.map_id] at same
    subst same
    rw [tail] at cut
    refine ⟨scheme, mark, c :: path, by rw [cut]; simp, (map_foldSimple_eq_iff plain_http _).mp spelled,
      optional, ⟨by simp, ?_⟩⟩
    intro d member
    apply solid
    rw [cut]
    simp [List.mem_cons.mp member]
  · rintro ⟨scheme, mark, path, rfl, spelled, optional, tail⟩
    have folded := (map_foldSimple_eq_iff plain_http _).mpr spelled
    obtain ⟨c, rest, rfl⟩ := List.exists_cons_of_ne_nil tail.given
    unfold Item.isLink
    rw [List.append_assoc scheme mark, List.append_assoc scheme, dropWord?_append folded]
    simp only
    rw [dropSchemeMark optional, dropWord?_append (by simp)]

theorem IsWebAddress.solid {link : Text} (linked : IsWebAddress link) : Solid link := by
  obtain ⟨scheme, mark, path, rfl, spelled, optional, tail⟩ := linked
  have first := spelled.solid (by decide)
  have colon : Solid "://".toList := by decide
  refine ⟨by simp, fun c member => ?_⟩
  simp only [List.mem_append] at member
  rcases member with ((inScheme | inMark) | inColon) | inPath
  · exact first.solid c inScheme
  · simp only [List.mem_cons, List.not_mem_nil, or_false] at optional
    rcases optional with rfl | rfl | rfl | rfl
    · simp at inMark
    all_goals
      rw [List.mem_singleton.mp inMark]
      decide
  · exact colon.solid c inColon
  · exact tail.solid c inPath

namespace Credit

variable (credit : Credit)

theorem gap_beforeBy : Gap credit.beforeBy := credit.gaps _ (by simp)
theorem gap_beforeAuthor : Gap credit.beforeAuthor := credit.gaps _ (by simp)
theorem gap_beforeIn : Gap credit.beforeIn := credit.gaps _ (by simp)
theorem gap_beforeLink : Gap credit.beforeLink := credit.gaps _ (by simp)

def words : Text :=
  credit.byWord ++ credit.beforeAuthor ++ ('@' :: credit.author ++ credit.beforeIn ++
    (credit.inWord ++ credit.beforeLink ++ credit.link))

theorem text_eq : credit.text = credit.beforeBy ++ credit.words := by
  simp [text, words]

theorem solid_byWord : Solid credit.byWord := credit.saysBy.solid (by decide)

theorem solid_inWord : Solid credit.inWord := credit.saysIn.solid (by decide)

theorem solid_handle : Solid ('@' :: credit.author) := by
  refine ⟨by simp, fun c member => ?_⟩
  rcases List.mem_cons.mp member with rfl | member
  · decide
  · exact credit.named.solid c member

theorem words_ne_nil : credit.words ≠ [] := by
  simp [words, credit.solid_byWord.given]

theorem words_startsSolid : StartsSolid credit.words := by
  unfold words
  rw [List.append_assoc]
  exact credit.solid_byWord.startsSolid_append _

theorem innerWords_words (rest : Text) :
    innerWords (credit.words ++ rest) = innerWords (credit.link ++ rest) + 3 := by
  have linkGiven := credit.linked.solid.given
  have fromLink : StartsSolid (credit.link ++ rest) := credit.linked.solid.startsSolid_append rest
  have fromIn : StartsSolid (credit.inWord ++ credit.beforeLink ++ (credit.link ++ rest)) := by
    rw [List.append_assoc]
    exact credit.solid_inWord.startsSolid_append _
  have fromHandle : StartsSolid ('@' :: credit.author ++ credit.beforeIn ++
      (credit.inWord ++ credit.beforeLink ++ (credit.link ++ rest))) := by
    rw [List.append_assoc]
    exact credit.solid_handle.startsSolid_append _
  calc innerWords (credit.words ++ rest)
      = innerWords (credit.byWord ++ credit.beforeAuthor ++ ('@' :: credit.author ++
          credit.beforeIn ++ (credit.inWord ++ credit.beforeLink ++ (credit.link ++ rest)))) := by
        simp [words]
    _ = innerWords (credit.link ++ rest) + 3 := by
        rw [innerWords_word_gap credit.solid_byWord credit.gap_beforeAuthor fromHandle (by simp),
          innerWords_word_gap credit.solid_handle credit.gap_beforeIn fromIn (by simp [linkGiven]),
          innerWords_word_gap credit.solid_inWord credit.gap_beforeLink fromLink (by simp [linkGiven])]

end Credit

namespace Attribution

variable (a : Attribution)

def uptoBy : Text := a.subject ++ a.credit.beforeBy ++ a.credit.byWord
def uptoAuthor : Text := a.uptoBy ++ a.credit.beforeAuthor ++ '@' :: a.credit.author
def uptoIn : Text := a.uptoAuthor ++ a.credit.beforeIn ++ a.credit.inWord

theorem text_eq : a.text = a.uptoIn ++ a.credit.beforeLink ++ a.credit.link := by
  simp [text, Credit.text, uptoIn, uptoAuthor, uptoBy]

theorem uptoBy_ends : EndsSolid a.uptoBy :=
  a.credit.solid_byWord.endsSolid_append _

theorem uptoAuthor_ends : EndsSolid a.uptoAuthor :=
  a.credit.solid_handle.endsSolid_append _

theorem uptoIn_ends : EndsSolid a.uptoIn :=
  a.credit.solid_inWord.endsSolid_append _

theorem parse?_of_text {line : Text} (whole : a.text = trim line) :
    Item.parse? line = some a.item := by
  have cutLink : splitLastWord a.text = (a.uptoIn, a.credit.link) := by
    rw [text_eq]
    exact splitLastWord_append a.uptoIn_ends a.credit.gap_beforeLink a.credit.linked.solid
  have cutIn : splitLastWord a.uptoIn = (a.uptoAuthor, a.credit.inWord) :=
    splitLastWord_append a.uptoAuthor_ends a.credit.gap_beforeIn a.credit.solid_inWord
  have cutHandle : splitLastWord a.uptoAuthor = (a.uptoBy, '@' :: a.credit.author) :=
    splitLastWord_append a.uptoBy_ends a.credit.gap_beforeAuthor a.credit.solid_handle
  have cutBy : splitLastWord a.uptoBy = (a.subject, a.credit.byWord) :=
    splitLastWord_append a.trimmed.ends a.credit.gap_beforeBy a.credit.solid_byWord
  have linked := (isLink_iff a.credit.linked.solid.solid).mpr a.credit.linked
  have saysBy : a.credit.byWord.map foldAscii = "by".toList := a.credit.saysBy
  have saysIn : a.credit.inWord.map foldAscii = "in".toList := a.credit.saysIn
  unfold Item.parse?
  rw [← whole, cutLink]
  simp only [cutIn, cutHandle, cutBy, linked, saysBy, saysIn]
  simp [a.credit.named.given, a.trimmed.given, a.oneLine, item]

/-- The text of a reading leaves no choice of where its words stand. -/
theorem text_injective {a b : Attribution} (same : a.text = b.text) : a = b := by
  rw [text_eq, text_eq] at same
  obtain ⟨upto, spaceLink, link⟩ := lastWord_unique a.uptoIn_ends a.credit.gap_beforeLink
    a.credit.linked.solid b.uptoIn_ends b.credit.gap_beforeLink b.credit.linked.solid same
  obtain ⟨upto, spaceIn, inWord⟩ := lastWord_unique a.uptoAuthor_ends a.credit.gap_beforeIn
    a.credit.solid_inWord b.uptoAuthor_ends b.credit.gap_beforeIn b.credit.solid_inWord upto
  obtain ⟨upto, spaceAuthor, handle⟩ := lastWord_unique a.uptoBy_ends a.credit.gap_beforeAuthor
    a.credit.solid_handle b.uptoBy_ends b.credit.gap_beforeAuthor b.credit.solid_handle upto
  obtain ⟨subject, spaceBy, byWord⟩ := lastWord_unique a.trimmed.ends a.credit.gap_beforeBy
    a.credit.solid_byWord b.trimmed.ends b.credit.gap_beforeBy b.credit.solid_byWord upto
  obtain ⟨subjectA, ⟨⟩, _, _⟩ := a
  obtain ⟨subjectB, ⟨⟩, _, _⟩ := b
  simp_all

/-- What it takes to be read: four cuts, each with the word it should give. -/
theorem cuts_of_parse? {line : Text} {item : Item} (read : Item.parse? line = some item) :
    ∃ uptoIn inWord uptoAuthor uptoBy byWord,
      splitLastWord (trim line) = (uptoIn, item.link) ∧
      splitLastWord uptoIn = (uptoAuthor, inWord) ∧
      splitLastWord uptoAuthor = (uptoBy, '@' :: item.author) ∧
      splitLastWord uptoBy = (item.subject, byWord) ∧
      Item.isLink item.link = true ∧ Spells inWord "in".toList ∧ item.author ≠ [] ∧
      Spells byWord "by".toList ∧ item.subject ≠ [] ∧ '\n' ∉ item.subject := by
  unfold Item.parse? at read
  rcases cutLink : splitLastWord (trim line) with ⟨uptoIn, link⟩
  rcases cutIn : splitLastWord uptoIn with ⟨uptoAuthor, inWord⟩
  rcases cutHandle : splitLastWord uptoAuthor with ⟨uptoBy, handle⟩
  rcases cutBy : splitLastWord uptoBy with ⟨subject, byWord⟩
  simp only [cutLink, cutIn, cutHandle, cutBy] at read
  split at read
  case h_2 => contradiction
  case h_1 author =>
    split at read
    case isFalse => contradiction
    case isTrue accepted =>
      obtain rfl := Option.some.inj read
      simp only [Bool.and_eq_true, beq_iff_eq, bne_iff_ne, ne_eq, Bool.not_eq_true',
        List.contains_eq_mem, decide_eq_false_iff_not] at accepted
      obtain ⟨⟨⟨⟨⟨linked, saysIn⟩, named⟩, saysBy⟩, given⟩, oneLine⟩ := accepted
      exact ⟨uptoIn, inWord, uptoAuthor, uptoBy, byWord, rfl, cutIn, cutHandle, cutBy, linked,
        saysIn, named, saysBy, given, oneLine⟩

theorem exists_of_parse? {line : Text} {item : Item} (read : Item.parse? line = some item) :
    ∃ a : Attribution, a.text = trim line := by
  obtain ⟨uptoIn, inWord, uptoAuthor, uptoBy, byWord, cutLink, cutIn, cutHandle, cutBy, linked,
    saysIn, named, saysBy, given, oneLine⟩ := cuts_of_parse? read
  have linkGiven : item.link ≠ [] := by
    intro nothing
    simp [nothing, Item.isLink, dropWord?] at linked
  have bySolid := Spells.solid saysBy (by decide)
  have inSolid := Spells.solid saysIn (by decide)
  have uptoByGiven := ne_nil_of_splitLastWord cutBy bySolid.given
  have uptoAuthorGiven := ne_nil_of_splitLastWord cutHandle (by simp)
  have uptoInGiven := ne_nil_of_splitLastWord cutIn inSolid.given
  obtain ⟨beforeLink, spaceLink, linkSolid, -, wholeLink⟩ :=
    splitLastWord_cut cutLink uptoInGiven linkGiven
  obtain ⟨beforeIn, spaceIn, -, -, wholeIn⟩ := splitLastWord_cut cutIn uptoAuthorGiven inSolid.given
  obtain ⟨beforeAuthor, spaceAuthor, handleSolid, -, wholeHandle⟩ :=
    splitLastWord_cut cutHandle uptoByGiven (by simp)
  obtain ⟨beforeBy, spaceBy, -, ends, wholeBy⟩ := splitLastWord_cut cutBy given bySolid.given
  have starts : StartsSolid item.subject := by
    have trimmed : Trimmed (trim line) := trimmed_trim (by rw [wholeLink]; simp [linkGiven])
    have first := trimmed.starts
    rw [wholeLink, wholeIn, wholeHandle, wholeBy] at first
    simp only [List.append_assoc] at first
    exact (startsSolid_append _ given).mp first
  let credit : Credit := {
    beforeBy, byWord, beforeAuthor, author := item.author, beforeIn, inWord, beforeLink
    link := item.link
    gaps := by simp [spaceBy, spaceAuthor, spaceIn, spaceLink]
    saysBy, saysIn
    named := ⟨named, fun c member => handleSolid.solid c (List.mem_cons_of_mem _ member)⟩
    linked := (isLink_iff linkSolid.solid).mp linked }
  refine ⟨⟨item.subject, credit, ⟨given, starts, ends⟩, oneLine⟩, ?_⟩
  rw [text_eq, wholeLink, wholeIn, wholeHandle, wholeBy]
  rfl

theorem parse?_eq_some_iff {line : Text} {item : Item} :
    Item.parse? line = some item ↔ ∃ a : Attribution, a.text = trim line ∧ a.item = item := by
  constructor
  · intro read
    obtain ⟨a, whole⟩ := exists_of_parse? read
    exact ⟨a, whole, Option.some.inj ((parse?_of_text a whole).symm.trans read)⟩
  · rintro ⟨a, whole, rfl⟩
    exact parse?_of_text a whole

/-- No credit in the line has its `by` behind the one that is read. -/
theorem credit_is_last (a : Attribution) {front rest : Text} {credit : Credit}
    (found : a.text = front ++ credit.text ++ rest) :
    (front ++ credit.beforeBy).length ≤ (a.subject ++ a.credit.beforeBy).length := by
  have whole : (a.subject ++ a.credit.beforeBy) ++ a.credit.words =
      (front ++ credit.beforeBy) ++ (credit.words ++ rest) := by
    simpa [text, Credit.text_eq] using found
  rcases List.append_eq_append_iff.mp whole with ⟨between, later, words⟩ | ⟨between, earlier, -⟩
  · by_cases nothing : between = []
    · simp [later, nothing]
    · -- The words of a credit begin three words behind their first, here one more would begin.
      have behind : between.getLast?.any isSpace = true := by
        rw [← List.getLast?_append_of_ne_nil _ nothing, ← later,
          List.getLast?_append_of_ne_nil _ credit.gap_beforeBy.given]
        exact credit.gap_beforeBy.endsBlank
      have starts : (credit.words ++ rest).head?.any (!isSpace ·) = true :=
        ((startsSolid_append rest credit.words_ne_nil).mpr credit.words_startsSolid).any
          (by simp [credit.words_ne_nil])
      have three := a.credit.innerWords_words []
      have more := credit.innerWords_words rest
      rw [List.append_nil, List.append_nil, innerWords_of_solid a.credit.linked.solid.solid, words,
        innerWords_append, behind, starts, more] at three
      simp at three
      omega
  · simp [earlier]

end Attribution

/-- Reading a line is reading its grammar: it succeeds on the attributed lines alone, a line has no
second reading, and no credit stands behind the one that is taken. -/
theorem Item.attribution_exact (line : Text) :
    ((Item.parse? line).isSome = true ↔ ∃ a : Attribution, a.text = trim line) ∧
    ∀ a : Attribution, a.text = trim line →
      Item.parse? line = some a.item ∧ (∀ b : Attribution, b.text = trim line → b = a) ∧
      ∀ (front : Text) (credit : Credit) (rest : Text), trim line = front ++ credit.text ++ rest →
        (front ++ credit.beforeBy).length ≤ (a.subject ++ a.credit.beforeBy).length := by
  constructor
  · rw [Option.isSome_iff_exists]
    constructor
    · rintro ⟨item, read⟩
      exact Attribution.exists_of_parse? read
    · rintro ⟨a, whole⟩
      exact ⟨a.item, a.parse?_of_text whole⟩
  · intro a whole
    refine ⟨a.parse?_of_text whole, ?_, ?_⟩
    · intro b other
      exact Attribution.text_injective (other.trans whole.symm)
    · intro front credit rest found
      exact a.credit_is_last (whole.trans found)

/-- A change of Bob's that takes up one of Ann's. -/
def Attribution.followUp : Attribution where
  subject := "fix: tidy by @ann in http://a".toList
  credit := .plain "bob".toList "https://b".toList (by decide)
    ⟨"http".toList, ['s'], ['b'], by decide, by decide, by decide, by decide⟩
  trimmed := by decide
  oneLine := by decide

theorem Item.parse?_followUp :
    let line := " fix: tidy by @ann in http://a by @bob in https://b\n".toList
    Attribution.followUp.text = trim line ∧ Item.parse? line = some Attribution.followUp.item ∧
      ∃ ann : Credit, trim line = "fix: tidy".toList ++ ann.text ++ " by @bob in https://b".toList ∧
        ("fix: tidy".toList ++ ann.beforeBy).length ≤
          (Attribution.followUp.subject ++ Attribution.followUp.credit.beforeBy).length := by
  have whole : Attribution.followUp.text =
      trim " fix: tidy by @ann in http://a by @bob in https://b\n".toList := by decide
  obtain ⟨read, -, last⟩ := (Item.attribution_exact _).2 Attribution.followUp whole
  let ann : Credit := .plain "ann".toList "http://a".toList (by decide)
    ⟨"http".toList, [], ['a'], by decide, by decide, by decide, by decide⟩
  have earlier : trim " fix: tidy by @ann in http://a by @bob in https://b\n".toList =
      "fix: tidy".toList ++ ann.text ++ " by @bob in https://b".toList := by decide
  exact ⟨whole, read, ann, earlier, last _ ann _ earlier⟩

end ReleaseNotes
