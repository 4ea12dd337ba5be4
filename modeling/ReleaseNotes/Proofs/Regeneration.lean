import ReleaseNotes.Proofs.Changelog
import ReleaseNotes.Proofs.Decoration

/-! Entries fed back as a body. An entry is on one line, clean, a header and nobody's automatic update, and as
none occurs twice, a body of entries gives these entries again. The sections they come from keep their
order whichever way they are merged into that body. -/
namespace ReleaseNotes

open Text

/-- Lines written one below the other. -/
def joinLines (lines : List Text) : Text :=
  List.intercalate ['\n'] lines

theorem candidates_joinLines (lines : List Text) :
    candidates (joinLines lines) = lines.flatMap candidates := by
  have feed : IsSeparator ['\n'] := .inr ⟨'\n', by decide, rfl⟩
  induction lines with
  | nil => rfl
  | cons line rest ih =>
    cases rest with
    | nil => simp [joinLines]
    | cons next rest =>
      unfold joinLines at ih ⊢
      rw [List.intercalate_cons_cons, candidates_append_separator feed, ih, ← List.flatMap_cons]

/-- What every entry of a body is. -/
structure IsEntry (line : Text) : Prop where
  unbroken : Unbroken line
  trimmed : Trimmed line
  header : isHeader line = true
  own : isOwn line = true

theorem isEntry_of_mem_entries {body line : Text} (member : line ∈ entries body) : IsEntry line := by
  obtain ⟨candidate, own⟩ := mem_kept.mp member
  obtain ⟨unbroken, trimmed, header⟩ := shape_of_mem_candidates candidate
  exact ⟨unbroken, trimmed, header, own⟩

theorem IsEntry.candidates_eq {line : Text} (entry : IsEntry line) : candidates line = [line] := by
  rw [candidates_of_unbroken entry.unbroken, Line.candidate?_of_isHeader entry.trimmed entry.header]
  rfl

theorem entries_joinLines {lines : List Text} (valid : ∀ line ∈ lines, IsEntry line)
    (nodup : lines.Nodup) : entries (joinLines lines) = lines := by
  have all : lines.flatMap candidates = lines := by
    calc lines.flatMap candidates = lines.flatMap ([·]) :=
          List.flatMap_congr fun line member => (valid line member).candidates_eq
      _ = lines := List.flatMap_singleton' lines
  rw [entries, candidates_joinLines, all]
  exact kept_of_nodup nodup fun line member => (valid line member).own

/-- Feeding the entries of a body back changes nothing. -/
theorem entries_joinLines_entries (body : Text) : entries (joinLines (entries body)) = entries body :=
  entries_joinLines (fun _ => isEntry_of_mem_entries) (nodup_kept _)

/-- All entries in a single list, each with the section it is from, so that those of each section stand in
their order. -/
def Sections.IsMerge (sections : Sections) (marked : List (Section × Text)) : Prop :=
  ∀ s, (marked.filter (·.1 == s)).map (·.2) = sections.get s

namespace Sections

theorem IsMerge.mem {sections : Sections} {marked : List (Section × Text)}
    (merge : sections.IsMerge marked) {s : Section} {entry : Text} (member : (s, entry) ∈ marked) :
    entry ∈ sections.get s := by
  rw [← merge s]
  exact List.mem_map.mpr ⟨(s, entry), List.mem_filter.mpr ⟨member, by simp⟩, rfl⟩

/-- Section after section is one way to merge them. -/
def bySection (sections : Sections) : List (Section × Text) :=
  Section.all.flatMap fun s => (sections.get s).map (s, ·)

theorem isMerge_bySection (sections : Sections) : sections.IsMerge sections.bySection := by
  intro s
  cases s <;> simp [bySection, Section.all, List.filter_map, Function.comp_def, beq_eq_decide]

end Sections

namespace Release

variable {release : Release} {marked : List (Section × Text)}

theorem sectionOf_of_merge (merge : release.document.changelog.IsMerge marked) :
    ∀ pair ∈ marked, pair.2 ∈ release.entries ∧ sectionOf pair.2 = pair.1 :=
  fun _ member => release.mem_section_iff.mp (merge.mem member)

theorem filter_of_merge (merge : release.document.changelog.IsMerge marked) (s : Section) :
    (marked.map (·.2)).filter (sectionOf · == s) = release.document.changelog.get s := by
  rw [← merge s, List.filter_map]
  congr 1
  apply List.filter_congr
  intro pair member
  simp [(sectionOf_of_merge merge pair member).2]

/-- A merge repeats no entry: it would be repeated within its section. -/
theorem nodup_of_merge (merge : release.document.changelog.IsMerge marked) :
    (marked.map (·.2)).Nodup := by
  rw [List.nodup_iff_count_le_one]
  intro entry
  have once : (release.document.changelog.get (sectionOf entry)).Nodup := by
    rw [section_eq_filter]
    exact release.nodup_entries.filter _
  rw [← filter_of_merge merge] at once
  have counted := List.nodup_iff_count_le_one.mp once entry
  rwa [List.count_filter (by simp)] at counted

theorem entries_of_merge (merge : release.document.changelog.IsMerge marked) :
    entries (release.withBody (joinLines (marked.map (·.2)))) = marked.map (·.2) := by
  refine entries_joinLines (fun line member => ?_) (nodup_of_merge merge)
  obtain ⟨pair, inMerge, rfl⟩ := List.mem_map.mp member
  exact isEntry_of_mem_entries (sectionOf_of_merge merge pair inMerge).1

theorem changelog_of_merge (merge : release.document.changelog.IsMerge marked) :
    (release.withBody (joinLines (marked.map (·.2)))).document.changelog =
      release.document.changelog := by
  apply Sections.ext_get
  intro s
  rw [section_eq_filter, entries_of_merge merge, filter_of_merge merge]

/-- A body made of the entries of a changelog, merged in any way that keeps the order of each section, has
this changelog, and so has the one that goes section by section; and the entries of a body give
themselves. -/
theorem changelog_regenerated (release : Release) {marked : List (Section × Text)}
    (merge : release.document.changelog.IsMerge marked) :
    (release.withBody (joinLines (marked.map (·.2)))).document.changelog =
        release.document.changelog ∧
      (release.withBody (joinLines (release.document.changelog.bySection.map (·.2)))).document.changelog =
        release.document.changelog ∧
      ∀ body, ReleaseNotes.entries (joinLines (ReleaseNotes.entries body)) = ReleaseNotes.entries body :=
  ⟨changelog_of_merge merge, changelog_of_merge (Sections.isMerge_bySection _), entries_joinLines_entries⟩

/-- Two sections that are merged in neither the order of the body nor that of the document. -/
theorem changelog_regenerated_crosswise :
    let release : Release := { body := "* fix: b\n1. feat: a\n* fix: b\n* fix: c\nfeat: d".toList }
    let marked : List (Section × Text) :=
      [(.added, "feat: a".toList), (.fixed, "fix: b".toList), (.added, "feat: d".toList),
        (.fixed, "fix: c".toList)]
    release.document.changelog.IsMerge marked ∧
      (release.withBody "feat: a\nfix: b\nfeat: d\nfix: c".toList).document.changelog =
        release.document.changelog := by
  intro release marked
  have merge : release.document.changelog.IsMerge marked := by
    intro s
    cases s <;> decide +kernel
  exact ⟨merge, (changelog_regenerated release merge).1⟩

end Release

end ReleaseNotes
