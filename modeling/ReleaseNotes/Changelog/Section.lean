import ReleaseNotes.Text.Basic

/-! The seven sections of a changelog, in the order they are written. -/
namespace ReleaseNotes

inductive Section where
  | added | changed | deprecated | removed | fixed | security | other
  deriving DecidableEq, Repr

namespace Section

def all : List Section :=
  [.added, .changed, .deprecated, .removed, .fixed, .security, .other]

def title : Section → Text
  | .added => "Added".toList
  | .changed => "Changed".toList
  | .deprecated => "Deprecated".toList
  | .removed => "Removed".toList
  | .fixed => "Fixed".toList
  | .security => "Security".toList
  | .other => "Other".toList

def ofTitle? (text : Text) : Option Section :=
  all.find? (·.title == text)

@[simp] theorem mem_all (s : Section) : s ∈ all := by
  cases s <;> decide

theorem all_nodup : all.Nodup := by
  decide

@[simp] theorem ofTitle?_title (s : Section) : ofTitle? s.title = some s := by
  cases s <;> decide

theorem title_injective {a b : Section} (same : a.title = b.title) : a = b := by
  simpa using congrArg ofTitle? same

end Section

end ReleaseNotes
