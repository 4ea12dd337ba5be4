import ReleaseNotes.Changelog.Rule
import ReleaseNotes.Changelog.Sections
import ReleaseNotes.Notes.Entry

/-! A release as it is described to the program, and the document made of it. Nothing about a release
is checked: every text gives a document. -/
namespace ReleaseNotes

structure Release where
  tag : Text := []
  version : Text := []
  date : Text := []
  body : Text := []
  sourceRepo : Text := []
  deriving DecidableEq, Repr

structure Document where
  version : Text
  tag : Text
  date : Text
  sourceRepo : Text
  changelog : Sections
  deriving DecidableEq, Repr

/-- The version if there is one, else the tag without one leading `v`. A tag that is nothing but
`v` stays as it is. -/
def versionOr (tag version : Text) : Text :=
  match version, tag with
  | [], 'v' :: c :: rest => c :: rest
  | [], tag => tag
  | version, _ => version

namespace Release

def entries (release : Release) : List Text :=
  ReleaseNotes.entries release.body

def changelog (release : Release) : Sections :=
  Sections.place sectionOf release.entries

def document (release : Release) : Document where
  version := versionOr release.tag release.version
  tag := release.tag
  date := release.date
  sourceRepo := release.sourceRepo
  changelog := release.changelog

end Release

@[simp] theorem versionOr_of_ne_nil (tag : Text) {version : Text} (given : version ≠ []) :
    versionOr tag version = version := by
  cases version with
  | nil => exact absurd rfl given
  | cons c rest => rfl

end ReleaseNotes
