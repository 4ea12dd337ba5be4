import ReleaseNotes.Proofs.Deduplication
import ReleaseNotes.Proofs.LineBreaks
import ReleaseNotes.Release.Basic

/-! The changelog of a release as a whole. Its sections share out the entries of the body between them, and
joining two bodies joins their changelogs, less what the second repeats. -/
namespace ReleaseNotes

namespace Sections

theorem entries_eq_flatMap (sections : Sections) : sections.entries = Section.all.flatMap sections.get := by
  unfold entries toList
  rw [List.flatMap_map]

theorem entries_push (sections : Sections) (s : Section) (entry : Text) :
    (sections.push s entry).entries.Perm (entry :: sections.entries) := by
  rw [List.perm_iff_count]
  intro other
  cases s <;> simp [entries, toList, Section.all, push, get, List.count_cons] <;> omega

theorem entries_foldl_push (target : Text → Section) (entries : List Text) (sections : Sections) :
    (entries.foldl (fun sections entry => sections.push (target entry) entry) sections).entries.Perm
      (sections.entries ++ entries) := by
  induction entries generalizing sections with
  | nil => simp
  | cons entry rest ih =>
    rw [List.foldl_cons]
    apply (ih _).trans
    apply ((sections.entries_push (target entry) entry).append_right rest).trans
    exact List.perm_middle.symm

theorem entries_place (target : Text → Section) (entries : List Text) :
    (place target entries).entries.Perm entries :=
  entries_foldl_push target entries empty

end Sections

namespace Release

variable (release : Release)

def withBody (body : Text) : Release :=
  { release with body }

@[simp] theorem entries_withBody (body : Text) :
    (release.withBody body).entries = ReleaseNotes.entries body := rfl

theorem section_eq_filter (s : Section) :
    release.document.changelog.get s = release.entries.filter (sectionOf · == s) :=
  Sections.get_place sectionOf release.entries s

theorem mem_section_iff {s : Section} {entry : Text} :
    entry ∈ release.document.changelog.get s ↔ entry ∈ release.entries ∧ sectionOf entry = s := by
  rw [section_eq_filter, List.mem_filter, beq_iff_eq]

theorem exists_section_iff {entry : Text} :
    (∃ s, entry ∈ release.document.changelog.get s) ↔ entry ∈ release.entries := by
  simp [mem_section_iff]

theorem nodup_entries : release.entries.Nodup :=
  nodup_kept _

/-- Every entry of the body is in one section, once, and the sections hold nothing besides. -/
theorem sections_partition_entries :
    release.entries.Nodup ∧
    (∀ s, release.document.changelog.get s = release.entries.filter (sectionOf · == s)) ∧
    (∀ entry s, (release.document.changelog.get s).count entry =
      if entry ∈ release.entries ∧ sectionOf entry = s then 1 else 0) ∧
    (Section.all.flatMap release.document.changelog.get).Perm release.entries ∧
    release.document.changelog.size = release.entries.length := by
  have shared : release.document.changelog.entries.Perm release.entries :=
    Sections.entries_place sectionOf release.entries
  refine ⟨release.nodup_entries, release.section_eq_filter, ?_, ?_, shared.length_eq⟩
  · intro entry s
    have once : (release.document.changelog.get s).Nodup := by
      rw [section_eq_filter]
      exact release.nodup_entries.filter _
    rw [once.count]
    simp only [mem_section_iff]
  · rw [← Sections.entries_eq_flatMap]
    exact shared

end Release

theorem entries_append {separator : Text} (ends : IsSeparator separator) (a b : Text) :
    entries (a ++ separator ++ b) =
      entries a ++ (entries b).filter (!(entries a).contains ·) := by
  unfold entries
  rw [candidates_append_separator ends, kept_append]

/-- Joined bodies give the candidates of both, and in each section the entries of the first and then
those of the second that the first does not have there. -/
theorem Release.sections_append (release : Release) {separator : Text} (ends : IsSeparator separator)
    (a b : Text) :
    candidates (a ++ separator ++ b) = candidates a ++ candidates b ∧
    ∀ s, (release.withBody (a ++ separator ++ b)).document.changelog.get s =
      (release.withBody a).document.changelog.get s ++
        ((release.withBody b).document.changelog.get s).filter
          (!((release.withBody a).document.changelog.get s).contains ·) := by
  refine ⟨candidates_append_separator ends a b, fun s => ?_⟩
  simp only [section_eq_filter, entries_withBody]
  rw [entries_append ends, List.filter_append, List.filter_filter, List.filter_filter]
  congr 1
  apply List.filter_congr
  intro entry _
  -- Within a section, to have an entry in the section is to have it at all.
  by_cases here : sectionOf entry = s
  · simp [here]
  · simp [here]

/-- A break that the two bodies form together, and an entry of both. -/
theorem Release.get_joined_across_break :
    let joined := "* feat: one\r".toList ++ ['\n'] ++ "\n* feat: one\n* feat: two".toList
    IsSeparator ['\n'] ∧ (Release.withBody {} joined).document.changelog.get .added =
      ["feat: one".toList, "feat: two".toList] := by
  have ends : IsSeparator ['\n'] := .inr ⟨'\n', by decide, rfl⟩
  refine ⟨ends, ?_⟩
  rw [(Release.sections_append {} ends _ _).2]
  decide +kernel

end ReleaseNotes
