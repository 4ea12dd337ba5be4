import ReleaseNotes.CommandLine.Help
import ReleaseNotes.Log.Filter
import ReleaseNotes.Output.Sink
import ReleaseNotes.Release.Json

/-! A run of the program. What it will do is settled by the arguments and the environment alone; only
whether it succeeds depends on the output. -/
namespace ReleaseNotes

/-- What the arguments and the environment ask for. -/
inductive Plan where
  | refuse
  /-- To stop at once, for want of a log filter. -/
  | abort
  | help (form : HelpForm)
  | publish (log : List Text) (text : Text)
  deriving DecidableEq, Repr

structure Outcome where
  exit : Nat
  stdout : List UInt8
  log : List Text
  deriving DecidableEq, Repr

def filterVariable : Text :=
  "RUST_LOG".toList

def Options.style (options : Options) : Document.Style :=
  if options.pretty then .pretty else .compact

namespace Plan

def publishing (options : Options) (env : Environment) : Plan :=
  let release := Release.resolve options.flags env
  match Filter.choose? options.verbose (env filterVariable) with
  | some filter => .publish (filter.log release.runEvents) (release.document.render options.style)
  | none => .abort

def make (arguments : List Argument) (env : Environment) : Plan :=
  match Options.read arguments with
  | .ok options => publishing options env
  | .error (.help form) => .help form
  | .error .usage => .refuse

/-- Help succeeds even where it cannot be written. -/
def run (plan : Plan) (sink : Sink) : Outcome :=
  match plan with
  | .refuse => { exit := 2, stdout := [], log := [] }
  | .abort => { exit := 101, stdout := [], log := [] }
  | .help form => { exit := 0, stdout := (sink.deliver (Text.utf8 form.text)).taken, log := [] }
  | .publish log text =>
    let delivery := sink.deliver (Text.utf8 text)
    { exit := if delivery.error.isSome then 1 else 0, stdout := delivery.taken, log }

end Plan

/-- The outcome of the program on a standard output. -/
def runProgram (arguments : List Argument) (env : Environment) (sink : Sink) : Outcome :=
  (Plan.make arguments env).run sink

end ReleaseNotes
