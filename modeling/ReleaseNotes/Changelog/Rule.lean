import ReleaseNotes.Changelog.Section
import ReleaseNotes.Commit.Kind
import ReleaseNotes.Text.Space
import ReleaseNotes.Text.Word

/-! The rules that choose a section, tried in order on the lowercased line: security marks first, then
the kinds of change, then breaking marks, then words for deprecation and removal. The first rule that
fires decides. -/
namespace ReleaseNotes

/-- Whether the text opens with the word of the kind and then a parenthesis or a colon. -/
def Kind.heads (kind : Kind) (text : Text) : Bool :=
  match Text.dropWord? id kind.word text with
  | some (c :: _) => c == '(' || c == ':'
  | _ => false

/-- Whether some kind heads the text at its start, if `free`, or behind a character that is not part
of a word. -/
def Kind.anyNamed (kinds : List Kind) (free : Bool) : Text → Bool
  | [] => false
  | c :: rest =>
    (free && kinds.any (·.heads (c :: rest))) || Kind.anyNamed kinds (!Text.isWord c) rest

inductive Rule where
  | securityMark | feature | fix | change | upkeep | revert
  | breakingPhrase | breakingMark | deprecation | removal | rest
  deriving DecidableEq, Repr

namespace Rule

def all : List Rule :=
  [.securityMark, .feature, .fix, .change, .upkeep, .revert,
   .breakingPhrase, .breakingMark, .deprecation, .removal, .rest]

def kinds : Rule → List Kind
  | .feature => [.feat]
  | .fix => [.fix]
  | .change => [.perf, .refactor, .docs, .style]
  | .upkeep => [.test, .build, .ci, .chore]
  | .revert => [.revert]
  | _ => []

def fires (rule : Rule) (line : Text) : Bool :=
  match rule with
  | .securityMark => Text.occurs "security".toList line || Text.occurs "cve-".toList line
  | .feature | .fix | .change | .upkeep | .revert => Kind.anyNamed rule.kinds true line
  | .breakingPhrase => Text.occurs "breaking change".toList line
  | .breakingMark => (line.takeWhile (· != ':')).contains '!'
  | .deprecation => Text.occurs "deprecat".toList line
  | .removal =>
    Text.occurs "remove".toList line || Text.occurs "deleted".toList line ||
      Text.occurs "drop ".toList line
  | .rest => true

def target : Rule → Section
  | .securityMark => .security
  | .feature => .added
  | .fix => .fixed
  | .change | .revert | .breakingPhrase | .breakingMark => .changed
  | .deprecation => .deprecated
  | .removal => .removed
  | .upkeep | .rest => .other

/-- The first rule that fires on the line, less the space around it, in lower case. -/
def deciding (line : Text) : Rule :=
  (all.find? (·.fires (Text.lowercase (Text.trim line)))).getD .rest

def rank (rule : Rule) : Nat :=
  all.idxOf rule

@[simp] theorem mem_all (rule : Rule) : rule ∈ all := by
  cases rule <;> decide

@[simp] theorem fires_rest (line : Text) : fires .rest line = true := rfl

theorem fires_deciding (line : Text) :
    (deciding line).fires (Text.lowercase (Text.trim line)) = true := by
  unfold deciding
  cases found : all.find? (·.fires (Text.lowercase (Text.trim line))) with
  | none => rfl
  | some rule =>
    have fired := List.find?_some found
    simpa using fired

end Rule

def sectionOf (line : Text) : Section :=
  (Rule.deciding line).target

end ReleaseNotes
