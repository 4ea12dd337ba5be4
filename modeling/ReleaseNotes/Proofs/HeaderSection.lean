import Mathlib.Order.WellFounded
import ReleaseNotes.Proofs.Changelog
import ReleaseNotes.Proofs.Header
import ReleaseNotes.Proofs.Lowercased
import ReleaseNotes.Proofs.Precedence

/-! The section of a commit header. A header whose word is in ASCII letters is decided by what it says of
security, by the kinds it names, or by its exclamation mark, and never by the words it uses for
deprecation or removal. Only a word with a long s, which opens a header but names no kind, gets past
these rules. -/
namespace ReleaseNotes

open Text

namespace Kind

theorem isWord_of_mem_word (kind : Kind) : ∀ c ∈ kind.word, isWord c = true := by
  apply List.all_eq_true.mp
  cases kind <;> decide

theorem ascii_of_spells {kind : Kind} {word : Text} (spelled : Spells word kind.word) :
    ∀ c ∈ word, c.toNat < 128 :=
  spelled.ascii fun letter member => by
    obtain ⟨-, high, -⟩ := kind.letters_of_word letter member
    omega

/-- In lower case the word of a header stands in front as the word of its kind, and the marks behind it
stay what they are. -/
theorem exists_lowercase_opening {kind : Kind} {word : Text} (spelled : Spells word kind.word)
    {marks : Text} (ascii : ∀ c ∈ marks, c.toNat < 128) (more : Text) :
    ∃ tail, lowercase (word ++ (marks ++ more)) = kind.word ++ (marks.map foldAscii ++ tail) := by
  have both : ∀ c ∈ word ++ marks, c.toNat < 128 := by
    intro c member
    rcases List.mem_append.mp member with inWord | inMarks
    · exact ascii_of_spells spelled c inWord
    · exact ascii c inMarks
  obtain ⟨before, lower⟩ := exists_lowercase_append both more
  refine ⟨lowercaseAfter before more, ?_⟩
  rw [← List.append_assoc, lower, List.map_append, List.append_assoc]
  exact congrArg (· ++ _) spelled

/-- What a text names does not overlap with the word in front of it. -/
theorem NamedBehind.behind_word {kind other : Kind} {before text tail : Text}
    (named : other.NamedBehind before text) (opening : text = kind.word ++ tail) :
    (before = [] ∧ other = kind) ∨ kind.word.length ≤ before.length := by
  obtain ⟨mark, after, whole, -, boundary⟩ := named
  rw [opening, List.append_assoc] at whole
  rcases List.append_eq_append_iff.mp whole with ⟨between, rfl, -⟩ | ⟨between, split, -⟩
  · right
    simp
  · by_cases nothing : before = []
    · subst nothing
      have leads : kind.word <+: kind.word ++ tail := List.prefix_append _ _
      have otherLeads : other.word <+: kind.word ++ tail := by
        rw [whole]
        exact List.prefix_append _ _
      left
      rcases List.prefix_or_prefix_of_prefix leads otherLeads with shorter | longer
      · exact ⟨rfl, (eq_of_word_leads shorter).symm⟩
      · exact ⟨rfl, eq_of_word_leads longer⟩
    · -- The character in front of the other word would be a letter of this one.
      have last := List.getLast?_eq_getLast_of_ne_nil nothing
      have letter : before.getLast nothing ∈ kind.word := by
        rw [split]
        exact List.mem_append_left _ (List.getLast_mem nothing)
      have inside := kind.isWord_of_mem_word _ letter
      simp [boundary _ last] at inside

end Kind

/-- A header by its parts: the word of a kind in ASCII letters, and what stands behind it. -/
structure IsHeaderOf (line : Text) (kind : Kind) (word rest : Text) : Prop where
  accepted : isHeader line = true
  whole : trim line = word ++ rest
  spelled : Spells word kind.word

namespace IsHeaderOf

variable {line word rest : Text} {kind : Kind}

theorem follows (header : IsHeaderOf line kind word rest) : Header.Follows rest :=
  follows_of_opens header.accepted header.whole ((kind.spells_word_iff word).mp header.spelled).1

theorem exists_lowercase (header : IsHeaderOf line kind word rest) :
    ∃ tail, lowercase (trim line) = kind.word ++ tail := by
  have none : ∀ c ∈ ([] : Text), c.toNat < 128 := by simp
  obtain ⟨tail, lower⟩ := Kind.exists_lowercase_opening header.spelled none rest
  exact ⟨tail, by rw [header.whole]; exact lower⟩

theorem namedBehind (header : IsHeaderOf line kind word rest) {mark : Char}
    (marked : rest.head? = some mark) (plain : mark = '(' ∨ mark = ':') :
    kind.NamedBehind [] (lowercase (trim line)) := by
  obtain ⟨more, rfl⟩ := List.head?_eq_some_iff.mp marked
  have ascii : ∀ c ∈ [mark], c.toNat < 128 := by
    rw [List.forall_mem_singleton]
    rcases plain with rfl | rfl <;> decide
  have same : [mark].map foldAscii = [mark] := by
    rcases plain with rfl | rfl <;> decide
  obtain ⟨tail, lower⟩ := Kind.exists_lowercase_opening header.spelled ascii more
  rw [header.whole, ← List.singleton_append, lower, same]
  exact ⟨mark, tail, rfl, plain, by simp⟩

theorem fires_breakingMark (header : IsHeaderOf line kind word rest) (marked : rest.head? = some '!') :
    Rule.breakingMark.fires (lowercase (trim line)) = true := by
  obtain ⟨more, shape⟩ := header.follows
  obtain rfl : rest = '!' :: ':' :: more := by
    rcases shape with rfl | rfl | rfl <;> simp_all
  have ascii : ∀ c ∈ ['!', ':'], c.toNat < 128 := by simp
  have same : ['!', ':'].map foldAscii = ['!', ':'] := by decide
  obtain ⟨tail, lower⟩ := Kind.exists_lowercase_opening header.spelled ascii more
  have noColon : ∀ c ∈ kind.word, (c != ':') = true := by
    intro c member
    have letter := kind.letters_of_word c member
    rw [bne_iff_ne]
    rintro rfl
    simp at letter
  have shown : lowercase (trim line) = kind.word ++ '!' :: ':' :: tail := by
    rw [header.whole]
    exact lower.trans (by rw [same]; rfl)
  rw [shown, Rule.fires, List.takeWhile_append_of_pos noColon]
  simp

theorem head?_cases (header : IsHeaderOf line kind word rest) :
    (∃ mark, rest.head? = some mark ∧ (mark = '(' ∨ mark = ':')) ∨ rest.head? = some '!' := by
  obtain ⟨more, rfl | rfl | rfl⟩ := header.follows <;> simp

theorem rank_deciding_le (header : IsHeaderOf line kind word rest) :
    (Rule.deciding line).rank ≤ Rule.breakingMark.rank := by
  rcases header.head?_cases with ⟨mark, marked, plain⟩ | marked
  · have named : kind.Named (lowercase (trim line)) := ⟨[], header.namedBehind marked plain⟩
    have fires := Rule.rank_deciding_le (Rule.fires_kind_iff.mpr ⟨kind, rfl, named⟩)
    have inFront : kind.rule.rank ≤ Rule.breakingMark.rank := by cases kind <;> decide
    exact Nat.le_trans fires inFront
  · exact Rule.rank_deciding_le (header.fires_breakingMark marked)

/-- A header that names no kind has an exclamation mark, and counts as a change. -/
theorem sectionOf_unnamed (header : IsHeaderOf line kind word rest)
    (unmarked : ¬SecurityMarked (lowercase (trim line)))
    (unnamed : ∀ other : Kind, ¬other.Named (lowercase (trim line))) :
    rest.head? = some '!' ∧ sectionOf line = .changed := by
  have marked : rest.head? = some '!' := by
    rcases header.head?_cases with ⟨mark, marked, plain⟩ | marked
    · exact absurd ⟨[], header.namedBehind marked plain⟩ (unnamed kind)
    · exact marked
  refine ⟨marked, ?_⟩
  have fired := Rule.fires_deciding line
  have bound := header.rank_deciding_le
  unfold sectionOf
  rcases Rule.securityMark_or_kind_or_behind (Rule.deciding line) with secure | ⟨other, same⟩ | behind
  · rw [secure] at fired
    exact absurd (Rule.fires_securityMark_iff.mp fired) unmarked
  · rw [← same] at fired
    obtain ⟨third, -, named⟩ := Rule.fires_kind_iff.mp fired
    exact absurd named (unnamed third)
  · -- Only the two rules for breaking changes are left.
    have later := behind .revert
    revert bound later
    cases Rule.deciding line <;> decide

theorem rank_deciding_le_own (header : IsHeaderOf line kind word rest)
    (direct : rest.head? = some '(' ∨ rest.head? = some ':') :
    kind.NamedBehind [] (lowercase (trim line)) ∧ (Rule.deciding line).rank ≤ kind.rule.rank := by
  have own : kind.NamedBehind [] (lowercase (trim line)) := by
    rcases direct with marked | marked
    · exact header.namedBehind marked (.inl rfl)
    · exact header.namedBehind marked (.inr rfl)
  exact ⟨own, Rule.rank_deciding_le (Rule.fires_kind_iff.mpr ⟨kind, rfl, [], own⟩)⟩

theorem deciding_own (header : IsHeaderOf line kind word rest)
    (direct : rest.head? = some '(' ∨ rest.head? = some ':')
    (unmarked : ¬SecurityMarked (lowercase (trim line)))
    (noneBefore : ∀ (other : Kind) (before : Text), other.NamedBehind before (lowercase (trim line)) →
      word.length ≤ before.length → kind.rule.rank ≤ other.rule.rank) :
    Rule.deciding line = kind.rule := by
  obtain ⟨own, -⟩ := header.rank_deciding_le_own direct
  refine Rule.deciding_of_named unmarked ⟨[], own⟩ ?_
  rintro other ⟨before, named⟩
  obtain ⟨tail, opening⟩ := header.exists_lowercase
  rcases named.behind_word opening with ⟨-, rfl⟩ | behind
  · exact Nat.le_refl _
  · apply noneBefore other before named
    have extent : word.length = kind.word.length := by
      rw [← header.spelled, List.length_map]
    omega

end IsHeaderOf

theorem Kind.exists_named_first {text : Text} (named : ∃ kind : Kind, kind.Named text) :
    ∃ first : Kind, first.Named text ∧
      ∀ other : Kind, other.Named text → first.rule.rank ≤ other.rule.rank := by
  obtain ⟨first, member, least⟩ :=
    (measure fun kind : Kind => kind.rule.rank).wf.has_min {kind | kind.Named text} named
  exact ⟨first, member, fun other found => Nat.le_of_not_lt (least other found)⟩

theorem Rule.exists_decider {line : Text} (unmarked : ¬SecurityMarked (lowercase (trim line)))
    (named : ∃ kind : Kind, kind.Named (lowercase (trim line))) :
    ∃ earlier rule kinds target later, ofKinds = earlier ++ (rule, kinds, target) :: later ∧
      (∃ first ∈ kinds, first.Named (lowercase (trim line))) ∧
      (∀ entry ∈ earlier, ∀ other ∈ entry.2.1, ¬other.Named (lowercase (trim line))) ∧
      deciding line = rule ∧ sectionOf line = target := by
  obtain ⟨first, found, least⟩ := Kind.exists_named_first named
  obtain ⟨earlier, later, split, place⟩ := exists_place first
  have decided := deciding_of_named unmarked found least
  refine ⟨earlier, _, _, _, later, split, ⟨first, Kind.mem_kinds_iff.mpr rfl, found⟩, ?_, decided,
    congrArg target decided⟩
  intro entry member other among otherNamed
  have sooner := (place other).mp ⟨entry, member, among⟩
  exact absurd sooner (Nat.not_lt.mpr (least other otherNamed))

/-- The place of a header's own kind in the order, up to which its rule is found. -/
theorem IsHeaderOf.exists_own_place {line word rest : Text} {kind : Kind}
    (header : IsHeaderOf line kind word rest) (direct : rest.head? = some '(' ∨ rest.head? = some ':') :
    ∃ earlier rule kinds target later, Rule.ofKinds = earlier ++ (rule, kinds, target) :: later ∧
      kind ∈ kinds ∧ Rule.deciding line ∈ .securityMark :: earlier.map Prod.fst ++ [rule] ∧
      (¬SecurityMarked (lowercase (trim line)) →
        (∀ entry ∈ earlier, ∀ other ∈ entry.2.1, ∀ before,
          other.NamedBehind before (lowercase (trim line)) → before.length < word.length) →
        Rule.deciding line = rule ∧ sectionOf line = target) := by
  obtain ⟨earlier, later, split, place⟩ := Rule.exists_place kind
  have notLater := (header.rank_deciding_le_own direct).2
  refine ⟨earlier, _, _, _, later, split, Kind.mem_kinds_iff.mpr rfl, Rule.mem_of_rank_le split place notLater,
    fun unmarked noneBehind => ?_⟩
  have decided : Rule.deciding line = kind.rule := by
    refine header.deciding_own direct unmarked fun other before named behind => ?_
    by_contra! sooner
    obtain ⟨entry, member, among⟩ := (place other).mpr sooner
    have inside := noneBehind entry member other among before named
    omega
  exact ⟨decided, congrArg Rule.target decided⟩

/-- Headers with the same security marks and the same names of kinds are in one section, whatever else
they say. -/
theorem IsHeaderOf.sectionOf_congr {line word rest : Text} {kind : Kind}
    (header : IsHeaderOf line kind word rest) {line' word' rest' : Text} {kind' : Kind}
    (header' : IsHeaderOf line' kind' word' rest')
    (marks : SecurityMarked (lowercase (trim line')) ↔ SecurityMarked (lowercase (trim line)))
    (names : ∀ other : Kind,
      other.Named (lowercase (trim line')) ↔ other.Named (lowercase (trim line))) :
    sectionOf line' = sectionOf line := by
  by_cases marked : SecurityMarked (lowercase (trim line))
  · unfold sectionOf
    rw [Rule.deciding_of_securityMarked marked, Rule.deciding_of_securityMarked (marks.mpr marked)]
  · have marked' : ¬SecurityMarked (lowercase (trim line')) := fun found => marked (marks.mp found)
    by_cases named : ∃ other : Kind, other.Named (lowercase (trim line))
    · obtain ⟨first, found, least⟩ := Kind.exists_named_first named
      unfold sectionOf
      rw [Rule.deciding_of_named marked found least, Rule.deciding_of_named marked' ((names first).mpr found)
        fun other otherFound => least other ((names other).mp otherFound)]
    · have unnamed : ∀ other : Kind, ¬other.Named (lowercase (trim line)) := not_exists.mp named
      have unnamed' : ∀ other : Kind, ¬other.Named (lowercase (trim line')) :=
        fun other found => unnamed other ((names other).mp found)
      rw [(header.sectionOf_unnamed marked unnamed).2, (header'.sectionOf_unnamed marked' unnamed').2]

/-- The section of a header whose word is in ASCII letters. Security marks come first, then the earliest
rule for any kind that is named anywhere in the line, and without either the header has an exclamation
mark and is a change. A header whose word stands directly in front of a parenthesis or a colon is not
decided later than by its own rule, and by that one if nothing behind the word asks for an earlier
one. Nothing but marks and names has a say in any of this. -/
theorem sectionOf_header {line word rest : Text} {kind : Kind}
    (header : IsHeaderOf line kind word rest) :
    let lower := lowercase (trim line)
    let order : List (Rule × List Kind × Section) :=
      [(.feature, [.feat], .added), (.fix, [.fix], .fixed),
        (.change, [.perf, .refactor, .docs, .style], .changed),
        (.upkeep, [.test, .build, .ci, .chore], .other), (.revert, [.revert], .changed)]
    (SecurityMarked lower → Rule.deciding line = .securityMark ∧ sectionOf line = .security) ∧
    (¬SecurityMarked lower → (∃ named : Kind, named.Named lower) →
      ∃ earlier rule kinds target later, order = earlier ++ (rule, kinds, target) :: later ∧
        (∃ first ∈ kinds, first.Named lower) ∧
        (∀ entry ∈ earlier, ∀ other ∈ entry.2.1, ¬other.Named lower) ∧
        Rule.deciding line = rule ∧ sectionOf line = target) ∧
    (¬SecurityMarked lower → (∀ named : Kind, ¬named.Named lower) →
      rest.head? = some '!' ∧ sectionOf line = .changed) ∧
    (rest.head? = some '(' ∨ rest.head? = some ':' →
      ∃ earlier rule kinds target later, order = earlier ++ (rule, kinds, target) :: later ∧ kind ∈ kinds ∧
        Rule.deciding line ∈ .securityMark :: earlier.map Prod.fst ++ [rule] ∧
        (¬SecurityMarked lower →
          (∀ entry ∈ earlier, ∀ other ∈ entry.2.1, ∀ before, other.NamedBehind before lower →
            before.length < word.length) →
          Rule.deciding line = rule ∧ sectionOf line = target)) ∧
    ∀ (line' word' rest' : Text) (kind' : Kind), IsHeaderOf line' kind' word' rest' →
      (SecurityMarked (lowercase (trim line')) ↔ SecurityMarked lower) →
      (∀ other : Kind, other.Named (lowercase (trim line')) ↔ other.Named lower) →
      sectionOf line' = sectionOf line := by
  intro lower order
  have listed : order = Rule.ofKinds := by decide
  rw [listed]
  refine ⟨fun marked => ?_, fun unmarked named => ?_, header.sectionOf_unnamed, fun direct => ?_, ?_⟩
  · have decided := Rule.deciding_of_securityMarked marked
    exact ⟨decided, congrArg Rule.target decided⟩
  · exact Rule.exists_decider unmarked named
  · exact header.exists_own_place direct
  · intro line' word' rest' kind' header' marks names
    exact header.sectionOf_congr header' marks names

/-- A fix named behind the word decides over a revert, and the word for a removal over nothing. -/
theorem sectionOf_header_named_behind :
    let line := " Revert(api): drop the fix: x".toList
    IsHeaderOf line .revert "Revert".toList "(api): drop the fix: x".toList ∧
      ¬SecurityMarked (lowercase (trim line)) ∧ Kind.fix.Named (lowercase (trim line)) ∧
      sectionOf line = .fixed := by
  intro line
  have header : IsHeaderOf line .revert "Revert".toList "(api): drop the fix: x".toList :=
    ⟨by decide +kernel, by decide +kernel, by decide⟩
  have unmarked : ¬SecurityMarked (lowercase (trim line)) := by decide +kernel
  have named : Kind.fix.Named (lowercase (trim line)) := by decide +kernel
  refine ⟨header, unmarked, named, ?_⟩
  obtain ⟨earlier, rule, kinds, target, later, split, ⟨first, member, found⟩, noneEarlier, -, decided⟩ :=
    (sectionOf_header header).2.1 unmarked ⟨.fix, named⟩
  -- The rule is neither the one in front of that for fixes nor one behind it.
  match earlier with
  | [] =>
    rw [List.nil_append] at split
    cases split
    obtain rfl := List.mem_singleton.mp member
    have unnamed : ¬Kind.feat.Named (lowercase (trim line)) := by decide +kernel
    exact absurd found unnamed
  | [_] =>
    rw [List.singleton_append] at split
    cases split
    exact decided
  | _ :: second :: _ =>
    obtain ⟨-, tail⟩ := List.cons.inj split
    obtain ⟨rfl, -⟩ := List.cons.inj tail
    apply absurd named
    apply noneEarlier (.fix, [.fix], .fixed) _ .fix List.mem_cons_self
    exact List.mem_cons_of_mem _ List.mem_cons_self

/-- A header in ASCII letters is decided before the rules for deprecation and removal have their turn. -/
theorem Rule.deciding_before_keywords {line : Text} (header : isHeader line = true)
    (opens : ∃ kind : Kind, kind.Opens (trim line)) :
    deciding line ≠ .deprecation ∧ deciding line ≠ .removal := by
  obtain ⟨kind, word, rest, whole, spelled⟩ := opens
  have early := IsHeaderOf.rank_deciding_le ⟨header, whole, spelled⟩
  constructor
  all_goals
    intro late
    rw [late] at early
    revert early
    decide

namespace Release

variable (release : Release)

theorem deciding_of_mem_keyword_section {s : Section} (keyword : s ∈ [Section.deprecated, .removed])
    {entry : Text} (member : entry ∈ release.document.changelog.get s) :
    Rule.deciding entry = .deprecation ∨ Rule.deciding entry = .removal := by
  have placed : (Rule.deciding entry).target = s := (release.mem_section_iff.mp member).2
  revert placed keyword
  cases Rule.deciding entry <;> cases s <;> decide

theorem not_opens_of_mem_keyword_section {s : Section} (keyword : s ∈ [Section.deprecated, .removed])
    {entry : Text} (member : entry ∈ release.document.changelog.get s) :
    Trimmed entry ∧ isHeader entry = true ∧ ¬∃ kind : Kind, kind.Opens entry := by
  obtain ⟨candidate, -⟩ := mem_kept.mp (release.mem_section_iff.mp member).1
  obtain ⟨-, trimmed, header⟩ := shape_of_mem_candidates candidate
  refine ⟨trimmed, header, fun opens => ?_⟩
  rw [← trimmed.trim_eq] at opens
  obtain ⟨notDeprecation, notRemoval⟩ := Rule.deciding_before_keywords header opens
  have decided := release.deciding_of_mem_keyword_section keyword member
  simp [notDeprecation, notRemoval] at decided

theorem keyword_section_eq_nil (plain : ∀ entry ∈ release.entries, ∃ kind : Kind, kind.Opens entry)
    {s : Section} (keyword : s ∈ [Section.deprecated, .removed]) :
    release.document.changelog.get s = [] := by
  apply List.eq_nil_iff_forall_not_mem.mpr
  intro entry member
  obtain ⟨-, -, notPlain⟩ := release.not_opens_of_mem_keyword_section keyword member
  exact notPlain (plain entry (release.mem_section_iff.mp member).1)

theorem opensWithLongS_of_mem_keyword_section {s : Section}
    (keyword : s ∈ [Section.deprecated, .removed]) {entry : Text}
    (member : entry ∈ release.document.changelog.get s) :
    ∃ kind : Kind, kind.OpensWithLongS entry := by
  obtain ⟨trimmed, header, notPlain⟩ := release.not_opens_of_mem_keyword_section keyword member
  have forms := opens_or_opensWithLongS header
  rw [trimmed.trim_eq] at forms
  exact forms.resolve_left notPlain

/-- A header in ASCII letters never comes to the rules for deprecation and removal, so a release of such
headers leaves both sections empty. What does get into one of them has a long s in its word. -/
theorem keyword_sections_longS :
    (∀ line, isHeader line = true → (∃ kind : Kind, kind.Opens (trim line)) →
      Rule.deciding line ≠ .deprecation ∧ Rule.deciding line ≠ .removal) ∧
    ((∀ entry ∈ release.entries, ∃ kind : Kind, kind.Opens entry) →
      release.document.changelog.get .deprecated = [] ∧
        release.document.changelog.get .removed = []) ∧
    ∀ s ∈ [Section.deprecated, .removed], ∀ entry ∈ release.document.changelog.get s,
      ∃ kind : Kind, kind.OpensWithLongS entry := by
  refine ⟨fun line header opens => Rule.deciding_before_keywords header opens, fun plain => ?_, ?_⟩
  · exact ⟨release.keyword_section_eq_nil plain (by simp), release.keyword_section_eq_nil plain (by simp)⟩
  · intro s keyword entry member
    exact release.opensWithLongS_of_mem_keyword_section keyword member

/-- A fix that removes something is no removal. -/
theorem keyword_sections_longS_fix :
    let release : Release := { body := "* fix: remove x".toList }
    release.entries = ["fix: remove x".toList] ∧
      (∀ entry ∈ release.entries, ∃ kind : Kind, kind.Opens entry) ∧
      release.document.changelog.get .removed = [] := by
  intro release
  have only : release.entries = ["fix: remove x".toList] := by decide +kernel
  have plain : ∀ entry ∈ release.entries, ∃ kind : Kind, kind.Opens entry := by
    intro entry member
    rw [only, List.mem_singleton] at member
    subst member
    exact ⟨.fix, "fix".toList, ": remove x".toList, by decide, by decide⟩
  exact ⟨only, plain, (release.keyword_sections_longS.2.1 plain).2⟩

/-- A test that is spelled with a long s opens a header, and its words then decide its section. -/
theorem longS_header_deprecated :
    let line := "te\u017ft: deprecate x".toList
    let release : Release := { body := "* te\u017ft: deprecate x".toList }
    isHeader line = true ∧ Rule.deciding line = .deprecation ∧
      release.document.changelog.get .deprecated = [line] := by
  decide +kernel

end Release

end ReleaseNotes
