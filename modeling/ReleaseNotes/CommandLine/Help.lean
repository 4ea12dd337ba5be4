import ReleaseNotes.CommandLine.Options

/-! The two help texts: a summary with one line for each option, and a full form with a paragraph for
each. -/
namespace ReleaseNotes

structure OptionHelp where
  /-- The option as it is typed. -/
  usage : String
  /-- What it gives. -/
  meaning : String

namespace HelpForm

def about : String :=
  "Generate Keep a Changelog JSON from GitHub Release metadata"

def usageLine : String :=
  "Usage: kac-notes [OPTIONS]"

def options (form : HelpForm) : List OptionHelp :=
  [⟨"      --tag <TAG>", "Release tag, e.g. \"v1.2.3\""⟩,
   ⟨"      --version <RELEASE_VERSION>",
     "Release version, e.g. \"1.2.3\" (derived from the tag when missing)"⟩,
   ⟨"      --date <DATE>", "Release date/time (RFC3339 preferred)"⟩,
   ⟨"      --body <BODY>", "Release notes body (markdown/text)"⟩,
   ⟨"      --source-repo <SOURCE_REPO>", "Source repository as \"owner/repo\""⟩,
   ⟨"      --pretty", "Pretty-print JSON (2-space indent). Default is compact"⟩,
   ⟨"  -v, --verbose", "Log pipeline decisions to stderr"⟩,
   ⟨"  -h, --help",
     match form with
     | .summary => "Print help (see more with '--help')"
     | .full => "Print help (see a summary with '-h')"⟩]

/-- The column at which meanings begin in the summary. -/
def column : Nat :=
  35

def summaryLine (help : OptionHelp) : String :=
  help.usage ++ String.ofList (List.replicate (column - help.usage.length) ' ') ++ help.meaning

def fullParagraph (help : OptionHelp) : String :=
  help.usage ++ "\n          " ++ help.meaning

def lines (form : HelpForm) : List String :=
  match form with
  | .summary =>
    [about, "", usageLine, "", "Options:"] ++ form.options.map summaryLine
  | .full =>
    [about ++ ".", "",
     "Every field falls back to environment variables when the flag is absent or empty, so the tool " ++
       "can run unconfigured inside a release workflow.", "",
     usageLine, "", "Options:", "\n\n".intercalate (form.options.map fullParagraph)]

def text (form : HelpForm) : Text :=
  (String.join (form.lines.map (· ++ "\n"))).toList

end HelpForm

end ReleaseNotes
