import ReleaseNotes.Changelog.Rule

/-! The rules of a section as a decision list. The rule that decides is the earliest that fires, and the rules
for kinds fire where the word of a kind stands between something that is no word and a parenthesis or a
colon. -/
namespace ReleaseNotes

open Text

namespace Kind

/-- The word of the kind stands behind `before`, which does not end inside a word, and in front of a
parenthesis or a colon. -/
def NamedBehind (kind : Kind) (before text : Text) : Prop :=
  ∃ mark after, text = before ++ kind.word ++ mark :: after ∧ (mark = '(' ∨ mark = ':') ∧
    ∀ c, before.getLast? = some c → isWord c = false

def Named (kind : Kind) (text : Text) : Prop :=
  ∃ before, kind.NamedBehind before text

theorem heads_iff (kind : Kind) (text : Text) :
    kind.heads text = true ↔ kind.NamedBehind [] text := by
  constructor
  · intro opened
    unfold heads at opened
    split at opened
    case h_1 mark after dropped =>
      obtain ⟨front, rfl, folded⟩ := dropWord?_eq_some_iff.mp dropped
      rw [List.map_id] at folded
      exact ⟨mark, after, by simp [folded], by simpa using opened, by simp⟩
    case h_2 => contradiction
  · rintro ⟨mark, after, rfl, marks, -⟩
    have dropped : dropWord? id kind.word (kind.word ++ mark :: after) = some (mark :: after) :=
      dropWord?_eq_some_iff.mpr ⟨kind.word, rfl, by simp⟩
    simp [heads, dropped, marks]

theorem namedBehind_cons_iff {kind : Kind} {c : Char} {before text : Text} :
    kind.NamedBehind (c :: before) (c :: text) ↔
      kind.NamedBehind before text ∧ (before = [] → isWord c = false) := by
  constructor
  · rintro ⟨mark, after, whole, marks, boundary⟩
    simp only [List.cons_append, List.cons.injEq, true_and] at whole
    refine ⟨⟨mark, after, whole, marks, fun d last => ?_⟩, ?_⟩
    · exact boundary d (by simp [List.getLast?_cons, last])
    · rintro rfl
      exact boundary c rfl
  · rintro ⟨⟨mark, after, rfl, marks, boundary⟩, first⟩
    refine ⟨mark, after, rfl, marks, fun d last => ?_⟩
    by_cases nothing : before = []
    · subst nothing
      obtain rfl := Option.some.inj last
      exact first rfl
    · rw [List.getLast?_cons_of_ne_nil nothing] at last
      exact boundary d last

/-- The search finds what is named, at the start only if that is free. -/
theorem anyNamed_iff (kinds : List Kind) (free : Bool) (text : Text) :
    anyNamed kinds free text = true ↔
      ∃ kind ∈ kinds, ∃ before, kind.NamedBehind before text ∧ (before = [] → free = true) := by
  induction text generalizing free with
  | nil =>
    simp only [anyNamed, Bool.false_eq_true, false_iff]
    rintro ⟨kind, -, before, ⟨mark, after, whole, -⟩, -⟩
    simp at whole
  | cons c rest ih =>
    simp only [anyNamed, Bool.or_eq_true, Bool.and_eq_true, List.any_eq_true, heads_iff, ih,
      Bool.not_eq_true']
    constructor
    · rintro (⟨atStart, kind, member, named⟩ | ⟨kind, member, before, named, first⟩)
      · exact ⟨kind, member, [], named, fun _ => atStart⟩
      · exact ⟨kind, member, c :: before, namedBehind_cons_iff.mpr ⟨named, first⟩, by simp⟩
    · rintro ⟨kind, member, before, named, first⟩
      cases before with
      | nil => exact .inl ⟨first rfl, kind, member, named⟩
      | cons d before =>
        obtain rfl : c = d := by
          obtain ⟨mark, after, whole, -⟩ := named
          simpa using congrArg List.head? whole
        obtain ⟨inner, boundary⟩ := namedBehind_cons_iff.mp named
        exact .inr ⟨kind, member, before, inner, boundary⟩

theorem named_iff (kind : Kind) (text : Text) : kind.Named text ↔ anyNamed [kind] true text = true := by
  simp [anyNamed_iff, Named]

instance (kind : Kind) (text : Text) : Decidable (kind.Named text) :=
  decidable_of_iff _ (kind.named_iff text).symm

def rule : Kind → Rule
  | .feat => .feature
  | .fix => .fix
  | .perf | .refactor | .docs | .style => .change
  | .test | .build | .ci | .chore => .upkeep
  | .revert => .revert

theorem mem_kinds_iff {kind : Kind} {rule : Rule} : kind ∈ rule.kinds ↔ kind.rule = rule := by
  cases kind <;> cases rule <;> decide

end Kind

/-- The text mentions security or a registered vulnerability. -/
def SecurityMarked (text : Text) : Prop :=
  "security".toList <:+: text ∨ "cve-".toList <:+: text

theorem occurs_iff_isInfix {pattern text : Text} : occurs pattern text = true ↔ pattern <:+: text := by
  rw [occurs_iff]
  exact ⟨fun ⟨before, after, whole⟩ => ⟨before, after, whole.symm⟩,
    fun ⟨before, after, whole⟩ => ⟨before, after, whole.symm⟩⟩

instance (text : Text) : Decidable (SecurityMarked text) :=
  decidable_of_iff ((occurs "security".toList text || occurs "cve-".toList text) = true)
    (by simp [SecurityMarked, occurs_iff_isInfix])

namespace Rule

theorem fires_securityMark_iff {text : Text} :
    securityMark.fires text = true ↔ SecurityMarked text := by
  simp [fires, SecurityMarked, occurs_iff_isInfix]

theorem fires_kind_iff {kind : Kind} {text : Text} :
    kind.rule.fires text = true ↔ ∃ other : Kind, other.rule = kind.rule ∧ other.Named text := by
  have search : kind.rule.fires text = Kind.anyNamed kind.rule.kinds true text := by
    cases kind <;> rfl
  simp [search, Kind.anyNamed_iff, Kind.mem_kinds_iff, Kind.Named]

/-- Every rule is for security marks, for some kind, or behind all that are for kinds. -/
theorem securityMark_or_kind_or_behind (rule : Rule) :
    rule = .securityMark ∨ (∃ kind : Kind, kind.rule = rule) ∨
      ∀ kind : Kind, kind.rule.rank < rule.rank := by
  cases rule
  case securityMark => exact .inl rfl
  case feature => exact .inr (.inl ⟨.feat, rfl⟩)
  case fix => exact .inr (.inl ⟨.fix, rfl⟩)
  case change => exact .inr (.inl ⟨.docs, rfl⟩)
  case upkeep => exact .inr (.inl ⟨.test, rfl⟩)
  case revert => exact .inr (.inl ⟨.revert, rfl⟩)
  all_goals exact .inr (.inr fun kind => by cases kind <;> decide)

theorem rank_injective {a b : Rule} (same : a.rank = b.rank) : a = b := by
  revert same
  cases a <;> cases b <;> decide

theorem rank_deciding (line : Text) :
    (deciding line).rank = all.findIdx (·.fires (lowercase (trim line))) := by
  have distinct : all.Nodup := by decide
  have inside : all.findIdx (·.fires (lowercase (trim line))) < all.length :=
    List.findIdx_lt_length_of_exists ⟨.rest, mem_all .rest, fires_rest _⟩
  rw [deciding, List.find?_eq_getElem?_findIdx, List.getElem?_eq_getElem inside, Option.getD_some, rank,
    distinct.idxOf_getElem]

theorem rank_deciding_le {rule : Rule} {line : Text} (fires : rule.fires (lowercase (trim line)) = true) :
    (deciding line).rank ≤ rule.rank := by
  rw [rank_deciding]
  apply Nat.le_of_not_lt
  intro passed
  have silent := List.not_of_lt_findIdx passed
  unfold rank at silent
  rw [List.getElem_idxOf, fires] at silent
  contradiction

theorem deciding_eq {rule : Rule} {line : Text} (fires : rule.fires (lowercase (trim line)) = true)
    (first : ∀ other : Rule, other.fires (lowercase (trim line)) = true → rule.rank ≤ other.rank) :
    deciding line = rule :=
  rank_injective (Nat.le_antisymm (rank_deciding_le fires) (first _ (fires_deciding line)))

theorem deciding_of_securityMarked {line : Text} (marked : SecurityMarked (lowercase (trim line))) :
    deciding line = .securityMark :=
  deciding_eq (fires_securityMark_iff.mpr marked) fun _ _ => Nat.zero_le _

theorem deciding_of_named {line : Text} {kind : Kind} (unmarked : ¬SecurityMarked (lowercase (trim line)))
    (named : kind.Named (lowercase (trim line)))
    (first : ∀ other : Kind, other.Named (lowercase (trim line)) → kind.rule.rank ≤ other.rule.rank) :
    deciding line = kind.rule := by
  refine deciding_eq (fires_kind_iff.mpr ⟨kind, rfl, named⟩) fun rule fires => ?_
  rcases securityMark_or_kind_or_behind rule with rfl | ⟨other, rfl⟩ | behind
  · exact absurd (fires_securityMark_iff.mp fires) unmarked
  · obtain ⟨third, same, thirdNamed⟩ := fires_kind_iff.mp fires
    exact same ▸ first third thirdNamed
  · exact Nat.le_of_lt (behind kind)

/-- The rules that look for kinds, in their order, each with its kinds and its section. -/
def ofKinds : List (Rule × List Kind × Section) :=
  (all.filter (·.kinds ≠ [])).map fun rule => (rule, rule.kinds, rule.target)

theorem mem_ofKinds (kind : Kind) : (kind.rule, kind.rule.kinds, kind.rule.target) ∈ ofKinds := by
  have searched : kind.rule.kinds ≠ [] := List.ne_nil_of_mem (Kind.mem_kinds_iff.mpr rfl)
  exact List.mem_map.mpr ⟨kind.rule, by simp [searched], rfl⟩

theorem mem_kinds_of_mem_earlier {earlier later : List (Rule × List Kind × Section)}
    (split : ofKinds = earlier ++ later) {entry : Rule × List Kind × Section} (member : entry ∈ earlier)
    {kind : Kind} : kind ∈ entry.2.1 ↔ kind.rule = entry.1 := by
  have listed : entry ∈ ofKinds := by
    rw [split]
    exact List.mem_append_left _ member
  obtain ⟨rule, -, rfl⟩ := List.mem_map.mp listed
  exact Kind.mem_kinds_iff

theorem ofKinds_sorted : ofKinds.Pairwise (·.1.rank < ·.1.rank) := by
  decide

/-- In front of the rule for a kind stand those for the kinds with an earlier rule, and no others. -/
theorem exists_place (kind : Kind) :
    ∃ earlier later, ofKinds = earlier ++ (kind.rule, kind.rule.kinds, kind.rule.target) :: later ∧
      ∀ other : Kind, (∃ entry ∈ earlier, other ∈ entry.2.1) ↔ other.rule.rank < kind.rule.rank := by
  obtain ⟨earlier, later, split⟩ := List.append_of_mem (mem_ofKinds kind)
  obtain ⟨-, behind, inFront⟩ := List.pairwise_append.mp (split ▸ ofKinds_sorted)
  refine ⟨earlier, later, split, fun other => ⟨?_, fun sooner => ?_⟩⟩
  · rintro ⟨entry, member, among⟩
    have before := inFront entry member _ List.mem_cons_self
    rwa [(mem_kinds_of_mem_earlier split member).mp among]
  · have listed := mem_ofKinds other
    rw [split, List.mem_append, List.mem_cons] at listed
    -- The list goes by rank, so an earlier rule is not found from the entry of the kind on.
    rcases listed with found | same | late
    · exact ⟨_, found, Kind.mem_kinds_iff.mpr rfl⟩
    · have equal : other.rule = kind.rule := congrArg Prod.fst same
      rw [equal] at sooner
      exact absurd sooner (Nat.lt_irrefl _)
    · have after := List.rel_of_pairwise_cons behind late
      exact absurd sooner (Nat.lt_asymm after)

theorem mem_of_rank_le {kind : Kind} {earlier later : List (Rule × List Kind × Section)}
    (split : ofKinds = earlier ++ (kind.rule, kind.rule.kinds, kind.rule.target) :: later)
    (place : ∀ other : Kind, (∃ entry ∈ earlier, other ∈ entry.2.1) ↔ other.rule.rank < kind.rule.rank)
    {rule : Rule} (notBehind : rule.rank ≤ kind.rule.rank) :
    rule ∈ .securityMark :: earlier.map Prod.fst ++ [kind.rule] := by
  rcases securityMark_or_kind_or_behind rule with rfl | ⟨other, rfl⟩ | behind
  · simp
  · rcases Nat.lt_or_eq_of_le notBehind with sooner | same
    · obtain ⟨entry, member, among⟩ := (place other).mpr sooner
      rw [(mem_kinds_of_mem_earlier split member).mp among]
      simp [List.mem_map_of_mem member]
    · simp [rank_injective same]
  · exact absurd notBehind (Nat.not_le.mpr (behind kind))

end Rule

end ReleaseNotes
