import ReleaseNotes.Text.Lowercase

/-! The kinds of change a commit header may announce, each with the word that stands for it. No word
is the beginning of another, so a header opens with at most one of them. -/
namespace ReleaseNotes

inductive Kind where
  | feat | fix | perf | refactor | docs | style | test | build | ci | chore | revert
  deriving DecidableEq, Repr

namespace Kind

def all : List Kind :=
  [.feat, .fix, .perf, .refactor, .docs, .style, .test, .build, .ci, .chore, .revert]

def word : Kind → Text
  | .feat => "feat".toList
  | .fix => "fix".toList
  | .perf => "perf".toList
  | .refactor => "refactor".toList
  | .docs => "docs".toList
  | .style => "style".toList
  | .test => "test".toList
  | .build => "build".toList
  | .ci => "ci".toList
  | .chore => "chore".toList
  | .revert => "revert".toList

def ofWord? (text : Text) : Option Kind :=
  all.find? (·.word == text)

structure Unknown where
  text : Text
  deriving DecidableEq, Repr

def Unknown.message (unknown : Unknown) : Text :=
  "Unknown commit type: ".toList ++ unknown.text

/-- The kind a text names once it is lowercased as a whole. -/
def read (text : Text) : Except Unknown Kind :=
  match ofWord? (Text.lowercase text) with
  | some kind => .ok kind
  | none => .error ⟨text⟩

/-- The kind whose word opens the text, letters compared after `fold`, and the rest of the text. -/
def dropFrom? (fold : Char → Char) (text : Text) : Option (Kind × Text) :=
  all.findSome? fun kind => (Text.dropWord? fold kind.word text).map (kind, ·)

@[simp] theorem mem_all (kind : Kind) : kind ∈ all := by
  cases kind <;> decide

@[simp] theorem ofWord?_word (kind : Kind) : ofWord? kind.word = some kind := by
  cases kind <;> decide

theorem word_injective {a b : Kind} (same : a.word = b.word) : a = b := by
  simpa using congrArg ofWord? same

theorem eq_of_word_leads {a b : Kind} (leads : a.word <+: b.word) : a = b := by
  rw [← List.isPrefixOf_iff_prefix] at leads
  revert leads
  cases a <;> cases b <;> decide

end Kind

end ReleaseNotes
