import Mathlib.Data.List.Forall2
import ReleaseNotes.Log.Event
import ReleaseNotes.Proofs.Changelog

/-! The log of a release accounts for every candidate of its body. Those that are left out are reported in
their order, each with its reason; then come the two counts, and then the entries with their sections,
from which the changelog can be made again. -/
namespace ReleaseNotes

open Text

/-- Lines, each with the lines in front of it; in front of the first stands `earlier`. -/
def withEarlier (earlier : List Text) : List Text → List (List Text × Text)
  | [] => []
  | line :: rest => (earlier, line) :: withEarlier (earlier ++ [line]) rest

theorem length_withEarlier (earlier lines : List Text) :
    (withEarlier earlier lines).length = lines.length := by
  induction lines generalizing earlier with
  | nil => rfl
  | cons line rest ih => simp [withEarlier, ih]

/-- An automatic dependency update, as its line is read. -/
def IsBump (line : Text) : Prop :=
  ∃ item, Item.parse? line = some item ∧ item.isBump = true

/-- A candidate goes if it is an automatic dependency update or was there before. -/
def LeftOut (candidate : List Text × Text) : Prop :=
  IsBump candidate.2 ∨ candidate.2 ∈ candidate.1

theorem Item.conventional_of_bump? {item : Item} {subject : Subject}
    (found : item.bump? = some subject) : item.conventional = some subject := by
  simp only [Item.bump?, Option.ite_none_right_eq_some, Option.filter_eq_some_iff] at found
  exact found.2.1

/-- An automatic dependency update has a subject to be reported by. -/
theorem Item.exists_subject_of_isBump {item : Item} (bump : item.isBump = true) :
    ∃ subject, item.conventional = some subject := by
  obtain ⟨subject, found⟩ := Option.isSome_iff_exists.mp bump
  exact ⟨subject, conventional_of_bump? found⟩

theorem bump?_eq_some_iff {line : Text} {item : Item} {subject : Subject} :
    bump? line = some (item, subject) ↔ Item.parse? line = some item ∧ item.bump? = some subject := by
  simp [bump?, Option.bind_eq_some_iff]

theorem bump?_eq_none_iff {line : Text} : bump? line = none ↔ ¬IsBump line := by
  rw [← not_iff_not, not_not, ← ne_eq, Option.ne_none_iff_exists']
  constructor
  · rintro ⟨⟨item, subject⟩, found⟩
    obtain ⟨read, bump⟩ := bump?_eq_some_iff.mp found
    exact ⟨item, read, Option.isSome_iff_exists.mpr ⟨subject, bump⟩⟩
  · rintro ⟨item, read, bump⟩
    obtain ⟨subject, found⟩ := Option.isSome_iff_exists.mp bump
    exact ⟨(item, subject), bump?_eq_some_iff.mpr ⟨read, found⟩⟩

instance (line : Text) : Decidable (IsBump line) :=
  decidable_of_iff (¬bump? line = none) (by rw [bump?_eq_none_iff, not_not])

instance (candidate : List Text × Text) : Decidable (LeftOut candidate) :=
  inferInstanceAs (Decidable (_ ∨ _))

/-- What is said of a candidate that goes. -/
inductive SkipMessage : List Text × Text → Text → Prop
  | bump {earlier : List Text} {line : Text} {item : Item} {subject : Subject}
      (read : Item.parse? line = some item) (isBump : item.isBump = true)
      (conventional : item.conventional = some subject) :
      SkipMessage (earlier, line)
        ("Skipping dependency bump ".toList ++ subject.kind.word ++ '(' :: subject.scope ++
          ") by ".toList ++ item.author ++ " (PR #".toList ++ Event.pullText item.pull ++ [')'])
  | repeated {earlier : List Text} {line : Text} (own : ¬IsBump line) (again : line ∈ earlier) :
      SkipMessage (earlier, line) ("Skipping duplicate entry: ".toList ++ line)

/-- The lines kept so far are those of the lines so far that are no automatic dependency updates. -/
def Remembers (seen earlier : List Text) : Prop :=
  ∀ line, ¬IsBump line → (line ∈ seen ↔ line ∈ earlier)

theorem Remembers.skip {seen earlier : List Text} (remembers : Remembers seen earlier) {line : Text}
    (leftOut : LeftOut (earlier, line)) : Remembers seen (earlier ++ [line]) := by
  intro other own
  rw [remembers other own, List.mem_append, List.mem_singleton]
  constructor
  · exact .inl
  · rintro (before | rfl)
    · exact before
    · exact leftOut.resolve_left own

theorem Remembers.keep {seen earlier : List Text} (remembers : Remembers seen earlier) (line : Text) :
    Remembers (line :: seen) (earlier ++ [line]) := by
  intro other own
  rw [List.mem_cons, remembers other own, List.mem_append, List.mem_singleton, or_comm]

theorem rule_cases (seen : List Text) (line : Text) :
    (∃ item subject, rule seen line = .bump item subject ∧ Item.parse? line = some item ∧
      item.isBump = true ∧ item.conventional = some subject) ∨
    (rule seen line = .repeated ∧ ¬IsBump line ∧ line ∈ seen) ∨
    (rule seen line = .keep ∧ ¬IsBump line ∧ line ∉ seen) := by
  cases found : bump? line with
  | some pair =>
    obtain ⟨item, subject⟩ := pair
    obtain ⟨read, bump⟩ := bump?_eq_some_iff.mp found
    have isBump : item.isBump = true := Option.isSome_iff_exists.mpr ⟨subject, bump⟩
    exact .inl ⟨item, subject, by rw [rule, found], read, isBump, Item.conventional_of_bump? bump⟩
  | none =>
    have own : ¬IsBump line := bump?_eq_none_iff.mp found
    by_cases old : line ∈ seen
    · exact .inr (.inl ⟨by simp [rule, found, old], own, old⟩)
    · exact .inr (.inr ⟨by simp [rule, found, old], own, old⟩)

def skipMessages (seen lines : List Text) : List Text :=
  ((rulingsAfter seen lines).filterMap fun (line, ruling) => ruling.event? line).map Event.message

/-- What is said and kept of the lines behind `earlier` is what their places among the lines ask for. -/
structure Accounts (seen earlier lines : List Text) : Prop where
  said : List.Forall₂ SkipMessage ((withEarlier earlier lines).filter fun c => LeftOut c)
    (skipMessages seen lines)
  kept : keptBehind seen lines = ((withEarlier earlier lines).filter fun c => ¬LeftOut c).map (·.2)

theorem Accounts.skip {seen earlier rest : List Text} {line : Text} {event : Event}
    (ruled : rule seen line ≠ .keep) (reported : (rule seen line).event? line = some event)
    (message : SkipMessage (earlier, line) event.message) (leftOut : LeftOut (earlier, line))
    (account : Accounts seen (earlier ++ [line]) rest) : Accounts seen earlier (line :: rest) := by
  have ruling : rulingsAfter seen (line :: rest) = (line, rule seen line) :: rulingsAfter seen rest := by
    rw [rulingsAfter]
    split <;> simp_all
  have messages : skipMessages seen (line :: rest) = event.message :: skipMessages seen rest := by
    simp [skipMessages, ruling, reported]
  have entries : keptBehind seen (line :: rest) = keptBehind seen rest := by
    simp [keptBehind, ruling, ruled]
  constructor
  · rw [messages, withEarlier, List.filter_cons_of_pos (by simpa using leftOut)]
    exact .cons message account.said
  · rw [entries, withEarlier, List.filter_cons_of_neg (by simpa using leftOut)]
    exact account.kept

theorem Accounts.keep {seen earlier rest : List Text} {line : Text}
    (ruled : rule seen line = .keep) (stays : ¬LeftOut (earlier, line))
    (account : Accounts (line :: seen) (earlier ++ [line]) rest) :
    Accounts seen earlier (line :: rest) := by
  have messages : skipMessages seen (line :: rest) = skipMessages (line :: seen) rest := by
    simp [skipMessages, rulingsAfter, ruled, Ruling.event?]
  have entries : keptBehind seen (line :: rest) = line :: keptBehind (line :: seen) rest := by
    simp [keptBehind, rulingsAfter, ruled]
  constructor
  · rw [messages, withEarlier, List.filter_cons_of_neg (by simpa using stays)]
    exact account.said
  · rw [entries, withEarlier, List.filter_cons_of_pos (by simpa using stays), List.map_cons, account.kept]

theorem accounts {seen earlier : List Text} (remembers : Remembers seen earlier) (lines : List Text) :
    Accounts seen earlier lines := by
  induction lines generalizing seen earlier with
  | nil => exact ⟨.nil, rfl⟩
  | cons line rest ih =>
    rcases rule_cases seen line with ⟨item, subject, ruled, read, isBump, conventional⟩ |
        ⟨ruled, own, old⟩ | ⟨ruled, own, fresh⟩
    · have leftOut : LeftOut (earlier, line) := .inl ⟨item, read, isBump⟩
      have reported : (rule seen line).event? line = some (.skippedBump item subject) := by
        rw [ruled, Ruling.event?]
      exact .skip (by simp [ruled]) reported (.bump read isBump conventional) leftOut
        (ih (remembers.skip leftOut))
    · have again : line ∈ earlier := (remembers line own).mp old
      have reported : (rule seen line).event? line = some (.skippedRepeat line) := by
        rw [ruled, Ruling.event?]
      exact .skip (by simp [ruled]) reported (.repeated own again) (.inr again)
        (ih (remembers.skip (.inr again)))
    · have stays : ¬LeftOut (earlier, line) := by
        rintro (bump | before)
        · exact own bump
        · exact fresh ((remembers line own).mpr before)
      exact .keep ruled stays (ih (remembers.keep line))

theorem SkipMessage.exact {candidate : List Text × Text} {message : Text}
    (said : SkipMessage candidate message) :
    ("Skipping dependency bump ".toList <+: message ↔ IsBump candidate.2) ∧
      (message = "Skipping duplicate entry: ".toList ++ candidate.2 ↔
        ¬IsBump candidate.2 ∧ candidate.2 ∈ candidate.1) := by
  cases said with
  | bump read isBump conventional =>
    have bump : IsBump _ := ⟨_, read, isBump⟩
    refine ⟨iff_of_true ?_ bump, iff_of_false ?_ fun reason => reason.1 bump⟩
    · simp only [List.append_assoc]
      exact List.prefix_append _ _
    · simp
  | repeated own again =>
    refine ⟨iff_of_false ?_ own, iff_of_true rfl ⟨own, again⟩⟩
    rintro ⟨rest, same⟩
    simp at same

/-- The entry and the section of an event that tells of a placement. -/
def Event.placement? : Event → Option (Text × Section)
  | .placed entry target => some (entry, target)
  | _ => none

/-- The changelog as its log tells it. -/
def Sections.ofLog (events : List Event) : Sections :=
  (events.filterMap Event.placement?).foldl (fun sections (entry, target) => sections.push target entry)
    empty

theorem placement?_of_ruling {line : Text} {ruling : Ruling} {event : Event}
    (reported : ruling.event? line = some event) : event.placement? = none := by
  cases ruling with
  | keep => contradiction
  | bump item subject =>
    obtain rfl := Option.some.inj reported
    rfl
  | repeated =>
    obtain rfl := Option.some.inj reported
    rfl

namespace Release

variable (release : Release)

/-- The candidates of the body that go, each with those in front of it. -/
def leftOut : List (List Text × Text) :=
  (withEarlier [] (candidates release.body)).filter fun c => LeftOut c

def staying : List (List Text × Text) :=
  (withEarlier [] (candidates release.body)).filter fun c => ¬LeftOut c

theorem length_leftOut_add :
    release.leftOut.length + release.staying.length = (candidates release.body).length := by
  have parts := List.length_eq_length_filter_add (l := withEarlier [] (candidates release.body))
    fun c => decide (LeftOut c)
  rw [length_withEarlier] at parts
  simp only [leftOut, staying, decide_not, parts]

/-- Only placements place, so the log gives the entries with their sections. -/
theorem ofLog_events : Sections.ofLog release.events = release.document.changelog := by
  have skips : ((rulings (candidates release.body)).filterMap fun (line, ruling) =>
      ruling.event? line).filterMap Event.placement? = [] := by
    rw [List.filterMap_eq_nil_iff]
    intro event member
    obtain ⟨⟨line, ruling⟩, -, reported⟩ := List.mem_filterMap.mp member
    exact placement?_of_ruling reported
  have placements : release.events.filterMap Event.placement? =
      release.entries.map fun entry => (entry, sectionOf entry) := by
    rw [events, List.filterMap_append, skips, List.nil_append,
      List.filterMap_cons_none (by rfl), List.filterMap_map, ← List.filterMap_eq_map]
    rfl
  rw [Sections.ofLog, placements, List.foldl_map]
  rfl

/-- The messages of a release say of each candidate that goes, in their order, why it goes, then how
many there are and stay, and then where each entry is placed. No candidate goes without a message,
for an automatic update has a subject to print, and the placements make up the changelog. -/
theorem events_account :
    (∃ skips, release.events.map Event.message = skips ++
        ("Extracted ".toList ++ Text.ofNat (candidates release.body).length ++
          " candidate lines, kept ".toList ++ Text.ofNat release.entries.length ++ " entries".toList) ::
        release.entries.map (fun entry => entry ++ " -> ".toList ++ (sectionOf entry).title) ∧
      List.Forall₂ SkipMessage release.leftOut skips ∧
      skips.length + release.entries.length = (candidates release.body).length) ∧
    release.entries = release.staying.map (·.2) ∧
    (∀ candidate message, SkipMessage candidate message →
      ("Skipping dependency bump ".toList <+: message ↔ IsBump candidate.2) ∧
      (message = "Skipping duplicate entry: ".toList ++ candidate.2 ↔
        ¬IsBump candidate.2 ∧ candidate.2 ∈ candidate.1)) ∧
    (∀ item : Item, item.isBump = true → ∃ subject, item.conventional = some subject) ∧
    Sections.ofLog release.events = release.document.changelog := by
  have account : Accounts [] [] (candidates release.body) := accounts (fun _ _ => Iff.rfl) _
  have said : List.Forall₂ SkipMessage release.leftOut (skipMessages [] (candidates release.body)) :=
    account.said
  have kept : release.entries = release.staying.map (·.2) := account.kept
  refine ⟨⟨skipMessages [] (candidates release.body), ?_, said, ?_⟩, kept, ?_, ?_, release.ofLog_events⟩
  · rw [events, List.map_append, List.map_cons, List.map_map, skipMessages, rulings]
    rfl
  · rw [← said.length_eq, kept, List.length_map]
    exact release.length_leftOut_add
  · intro candidate message reported
    exact reported.exact
  · intro item bump
    exact Item.exists_subject_of_isBump bump

def loggedUpdate : Text :=
  "build(deps): a by @dependabot[bot] in https://h/pull/7".toList

/-- An automatic update, an entry and its repetition. -/
theorem events_account_update_and_repetition :
    let release : Release := { body := loggedUpdate ++ "\n* fix: b\n* fix: b".toList }
    let again : List Text × Text := ([loggedUpdate, "fix: b".toList], "fix: b".toList)
    (∃ skips, List.Forall₂ SkipMessage release.leftOut skips ∧ skips.length + 1 = 3) ∧
      SkipMessage again "Skipping duplicate entry: fix: b".toList ∧
      (("Skipping dependency bump ".toList <+: "Skipping duplicate entry: fix: b".toList) ↔
        IsBump again.2) ∧
      (∃ item, Item.parse? loggedUpdate = some item ∧ item.isBump = true ∧
        ∃ subject, item.conventional = some subject) ∧
      Sections.ofLog release.events = release.document.changelog := by
  intro release again
  obtain ⟨⟨skips, -, said, all⟩, -, exact, subjects, replayed⟩ := events_account release
  have found : (candidates release.body).length = 3 ∧ release.entries.length = 1 := by decide +kernel
  have repeated : SkipMessage again "Skipping duplicate entry: fix: b".toList :=
    .repeated (by decide +kernel) (by simp)
  have bump : IsBump loggedUpdate := by decide +kernel
  obtain ⟨item, read, isBump⟩ := bump
  rw [found.1, found.2] at all
  exact ⟨⟨skips, said, all⟩, repeated, (exact again _ repeated).1, ⟨item, read, isBump, subjects item isBump⟩,
    replayed⟩

end Release

end ReleaseNotes
