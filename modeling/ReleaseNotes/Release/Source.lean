import ReleaseNotes.Release.Basic

/-! Where the fields of a release come from. Each field has a flag and a chain of environment
variables behind it, and takes the first of them that is not empty. -/
namespace ReleaseNotes

inductive Field where
  | tag | version | date | body | sourceRepo
  deriving DecidableEq, Repr

/-- The values given by flags. A flag that was not given and one with an empty value count alike. -/
structure Flags where
  tag : Option Text := none
  version : Option Text := none
  date : Option Text := none
  body : Option Text := none
  sourceRepo : Option Text := none
  deriving DecidableEq, Repr

/-- The value of an environment variable, if it is set to a text. -/
abbrev Environment := Text → Option Text

namespace Field

def all : List Field :=
  [.tag, .version, .date, .body, .sourceRepo]

/-- The environment variables behind the flag of a field, first choice first. -/
def fallbacks : Field → List Text
  | .tag => ["RELEASE_TAG".toList, "GITHUB_REF_NAME".toList, "RELEASE_VERSION".toList]
  | .version => ["RELEASE_VERSION".toList]
  | .date =>
    ["RELEASE_DATE".toList, "RELEASE_PUBLISHED_AT".toList, "GITHUB_EVENT_RELEASE_PUBLISHED_AT".toList]
  | .body => ["RELEASE_BODY".toList, "GITHUB_EVENT_RELEASE_BODY".toList]
  | .sourceRepo => ["SOURCE_REPO".toList, "GITHUB_REPOSITORY".toList]

/-- What counts of the value of a variable: a body as it stands, any other text without the space
around it. -/
def ofVariable : Field → Text → Text
  | .body, value => value
  | _, value => Text.trim value

@[simp] theorem mem_all (field : Field) : field ∈ all := by
  cases field <;> decide

end Field

namespace Flags

def get (flags : Flags) : Field → Option Text
  | .tag => flags.tag
  | .version => flags.version
  | .date => flags.date
  | .body => flags.body
  | .sourceRepo => flags.sourceRepo

def set (flags : Flags) (field : Field) (value : Text) : Flags :=
  match field with
  | .tag => { flags with tag := some value }
  | .version => { flags with version := some value }
  | .date => { flags with date := some value }
  | .body => { flags with body := some value }
  | .sourceRepo => { flags with sourceRepo := some value }

@[simp] theorem get_set_self (flags : Flags) (field : Field) (value : Text) :
    (flags.set field value).get field = some value := by
  cases field <;> rfl

theorem get_set_of_ne (flags : Flags) {field other : Field} (value : Text) (apart : field ≠ other) :
    (flags.set field value).get other = flags.get other := by
  cases field <;> cases other <;> simp_all [set, get]

end Flags

/-- Everything a field could be, first choice first. -/
def Field.choices (field : Field) (flags : Flags) (env : Environment) : List Text :=
  (flags.get field).getD [] ::
    field.fallbacks.map fun name => field.ofVariable ((env name).getD [])

def Field.resolve (field : Field) (flags : Flags) (env : Environment) : Text :=
  ((field.choices flags env).find? (· != [])).getD []

namespace Release

def get (release : Release) : Field → Text
  | .tag => release.tag
  | .version => release.version
  | .date => release.date
  | .body => release.body
  | .sourceRepo => release.sourceRepo

/-- The release that the flags and the environment describe. -/
def resolve (flags : Flags) (env : Environment) : Release where
  tag := Field.tag.resolve flags env
  version := Field.version.resolve flags env
  date := Field.date.resolve flags env
  body := Field.body.resolve flags env
  sourceRepo := Field.sourceRepo.resolve flags env

@[simp] theorem get_resolve (flags : Flags) (env : Environment) (field : Field) :
    (resolve flags env).get field = field.resolve flags env := by
  cases field <;> rfl

end Release

end ReleaseNotes
