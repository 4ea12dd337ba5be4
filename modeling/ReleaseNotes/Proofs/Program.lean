import ReleaseNotes.CommandLine.Run
import ReleaseNotes.Proofs.CommandLine
import ReleaseNotes.Proofs.Delivery
import ReleaseNotes.Proofs.Directive
import ReleaseNotes.Proofs.Resolution
import ReleaseNotes.Proofs.RoundTrip

/-! Runs of the program. What it writes is the document of the release that the command line and the
environment describe, and the log has no part in it: only a log filter that splits a character stops
the program before it writes anything. -/
namespace ReleaseNotes

open Text

theorem Field.filterVariable_not_mem_fallbacks (field : Field) : filterVariable ∉ field.fallbacks := by
  cases field <;> decide

theorem Release.resolve_congr {env env' : Environment} (flags : Flags)
    (same : ∀ name, name ≠ filterVariable → env' name = env name) :
    resolve flags env' = resolve flags env := by
  have each : ∀ field : Field, field.resolve flags env' = field.resolve flags env := by
    intro field
    refine Field.resolve_congr rfl fun name member => same name ?_
    rintro rfl
    exact field.filterVariable_not_mem_fallbacks member
  simp only [resolve, each]

theorem Document.render_ne_nil (style : Style) (document : Document) : document.render style ≠ [] := by
  cases style <;> simp [render, toValue, Json.write]

theorem utf8_ne_nil {text : Text} (given : text ≠ []) : utf8 text ≠ [] := by
  intro nothing
  have length := length_utf8 text
  rw [nothing, List.length_nil] at length
  exact given (eq_nil_of_size_eq_zero length.symm)

/-- The log filter has a directive that splits a character, and no malformed one in front of it. -/
def SplitsFilter (env : Environment) : Prop :=
  (env filterVariable).map Filter.read = some (.error .split)

instance (env : Environment) : Decidable (SplitsFilter env) :=
  inferInstanceAs (Decidable (_ = _))

theorem SplitsFilter.exists_directive {env : Environment} (splits : SplitsFilter env) :
    ∃ spelling, env filterVariable = some spelling ∧ ∃ directive ∈ Filter.pieces spelling,
      startsWithSpace directive = true ∧ ∃ c ∈ directive, 127 < c.toNat := by
  obtain ⟨spelling, set, fault⟩ := Option.map_eq_some_iff.mp splits
  obtain ⟨directive, member, fault⟩ := Filter.exists_piece_of_read_eq_error fault
  exact ⟨spelling, set, directive, member, Directive.misaligned_of_split fault⟩

namespace CommandLine

variable (line : CommandLine)

def flags : Flags :=
  .ofFields line.value?

def style : Document.Style :=
  if line.isSet .pretty then .pretty else .compact

def text (env : Environment) : Text :=
  (Release.resolve line.flags env).document.render line.style

/-- The same values for all fields, in the same style. How much is logged may differ. -/
def SameValues (a b : CommandLine) : Prop :=
  (∀ field, a.value? field = b.value? field) ∧ a.isSet .pretty = b.isSet .pretty

theorem SameValues.text_eq {a b : CommandLine} (same : SameValues a b) {env env' : Environment}
    (agree : ∀ name, name ≠ filterVariable → env' name = env name) : a.text env' = b.text env := by
  obtain ⟨values, pretty⟩ := same
  have flags : a.flags = b.flags := congrArg Flags.ofFields (funext values)
  rw [text, text, style, style, flags, pretty, Release.resolve_congr b.flags agree]

theorem runProgram_of_unsplit {env : Environment} (unsplit : ¬SplitsFilter env) (sink : Sink) :
    (runProgram line.arguments env sink).exit =
        (if (sink.deliver (utf8 (line.text env))).error.isSome then 1 else 0) ∧
      (runProgram line.arguments env sink).stdout = (sink.deliver (utf8 (line.text env))).taken := by
  obtain ⟨filter, chosen⟩ : ∃ filter,
      Filter.choose? line.options.verbose (env filterVariable) = some filter :=
    Option.ne_none_iff_exists'.mp (mt Filter.choose?_eq_none_iff.mp unsplit)
  have plan : Plan.make line.arguments env =
      .publish (filter.log (Release.resolve line.flags env).runEvents) (line.text env) := by
    rw [Plan.make, line.read_arguments]
    dsimp only [Plan.publishing]
    rw [chosen]
    rfl
  rw [runProgram, plan]
  exact ⟨rfl, rfl⟩

theorem runProgram_of_split {env : Environment} (splits : SplitsFilter env) (sink : Sink) :
    runProgram line.arguments env sink = ⟨101, [], []⟩ := by
  have noFilter : Filter.choose? line.options.verbose (env filterVariable) = none :=
    Filter.choose?_eq_none_iff.mpr splits
  have plan : Plan.make line.arguments env = .abort := by
    rw [Plan.make, line.read_arguments]
    dsimp only [Plan.publishing]
    rw [noFilter]
  rw [runProgram, plan]
  rfl

def logging (filter : Text) : Environment :=
  fun name => if name = filterVariable then some filter else none

def joined : CommandLine where
  settings := [.field .tag ['-'] true, .field .date "--pretty".toList true,
    .field .body "feat: a=b".toList true]
  once := by decide
  readable := by simp [Setting.Readable]

/-- The same values, two of them in arguments of their own. -/
def apart : CommandLine where
  settings := [.field .body "feat: a=b".toList false, .verbose true,
    .field .date "--pretty".toList true, .field .tag ['-'] false]
  once := by decide
  readable := by simp [Setting.Readable]

end CommandLine

end ReleaseNotes
