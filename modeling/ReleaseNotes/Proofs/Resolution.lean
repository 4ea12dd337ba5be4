import ReleaseNotes.Proofs.Trimmed
import ReleaseNotes.Release.Source

/-! Releases as flags and environment describe them. Each field has its own chain of sources and takes the
first that yields something, so nothing outside the chain matters to it and nothing behind that source
does. A document is without a version only if no source of a version or a tag yields anything. -/
namespace ReleaseNotes

open Text

/-- A flag, or a variable taken as it stands, that was not given or is empty. -/
def NotGiven (value : Option Text) : Prop :=
  value = none ∨ value = some []

/-- A variable that is not set or holds nothing but space. -/
def Blank (value : Option Text) : Prop :=
  ∀ text ∈ value, ∀ c ∈ text, isSpace c = true

instance (value : Option Text) : Decidable (NotGiven value) :=
  inferInstanceAs (Decidable (_ ∨ _))

instance (value : Option Text) : Decidable (Blank value) :=
  decidable_of_iff (value.all (·.all isSpace) = true) (by simp [Blank, Option.all_eq_true])

theorem notGiven_iff {value : Option Text} : NotGiven value ↔ value.getD [] = [] := by
  cases value <;> simp [NotGiven]

theorem blank_iff {value : Option Text} : Blank value ↔ trim (value.getD []) = [] := by
  cases value <;> simp [Blank, trim_eq_nil_iff]

/-- The same, or nothing on both sides. -/
def SameOrNothing (nothing : Option Text → Prop) (a b : Option Text) : Prop :=
  a = b ∨ (nothing a ∧ nothing b)

instance (nothing : Option Text → Prop) [DecidablePred nothing] (a b : Option Text) :
    Decidable (SameOrNothing nothing a b) :=
  inferInstanceAs (Decidable (_ ∨ _))

/-- The first choice that is not empty, or nothing if all are. -/
def firstGiven (choices : List Text) : Text :=
  (choices.find? (· != [])).getD []

/-- The value is one of the choices and all in front of it are empty, or it and all choices are. -/
def IsFirstGiven (choices : List Text) (value : Text) : Prop :=
  (∃ before after, choices = before ++ value :: after ∧ (∀ choice ∈ before, choice = []) ∧ value ≠ []) ∨
    ((∀ choice ∈ choices, choice = []) ∧ value = [])

theorem firstGiven_cons (choice : Text) (choices : List Text) :
    firstGiven (choice :: choices) = if choice = [] then firstGiven choices else choice := by
  by_cases nothing : choice = [] <;> simp [firstGiven, nothing]

theorem firstGiven_eq_nil_iff {choices : List Text} :
    firstGiven choices = [] ↔ ∀ choice ∈ choices, choice = [] := by
  induction choices with
  | nil => simp [firstGiven]
  | cons choice choices ih =>
    rw [firstGiven_cons]
    split <;> simp_all

theorem firstGiven_append_of_nil {before : List Text} (nothing : ∀ choice ∈ before, choice = [])
    (choices : List Text) : firstGiven (before ++ choices) = firstGiven choices := by
  induction before with
  | nil => rfl
  | cons choice before ih =>
    rw [List.cons_append, firstGiven_cons, if_pos (nothing choice (by simp))]
    exact ih fun other member => nothing other (by simp [member])

theorem firstGiven_append_of_given {before : List Text} (given : ∃ choice ∈ before, choice ≠ [])
    (after : List Text) : firstGiven (before ++ after) = firstGiven before := by
  induction before with
  | nil => simp at given
  | cons choice before ih =>
    rw [List.cons_append, firstGiven_cons, firstGiven_cons]
    split
    · apply ih
      simp_all
    · rfl

theorem isFirstGiven_iff {choices : List Text} {value : Text} :
    IsFirstGiven choices value ↔ value = firstGiven choices := by
  constructor
  · rintro (⟨before, after, rfl, nothing, given⟩ | ⟨nothing, rfl⟩)
    · rw [firstGiven_append_of_nil nothing, firstGiven_cons, if_neg given]
    · exact (firstGiven_eq_nil_iff.mpr nothing).symm
  · rintro rfl
    by_cases nothing : firstGiven choices = []
    · exact .inr ⟨firstGiven_eq_nil_iff.mp nothing, nothing⟩
    · left
      unfold firstGiven at nothing ⊢
      cases found : choices.find? (· != []) with
      | none => simp [found] at nothing
      | some value =>
        obtain ⟨given, before, after, cut, inFront⟩ := List.find?_eq_some_iff_append.mp found
        exact ⟨before, after, cut, by simpa using inFront, by simpa using given⟩

theorem firstGiven_again (choice : Text) (choices : List Text) :
    firstGiven (firstGiven (choice :: choices) :: choices) = firstGiven (choice :: choices) := by
  rw [firstGiven_cons, firstGiven_cons]
  by_cases nothing : choice = []
  · rw [if_pos nothing, ite_self]
  · simp [nothing]

namespace Field

variable {field : Field} {flags flags' : Flags} {env env' : Environment}

/-- The value of a variable yields nothing for a field. A body counts as it stands, so space is something
there. -/
def Lacks : Field → Option Text → Prop
  | .body, value => NotGiven value
  | _, value => Blank value

instance : (field : Field) → (value : Option Text) → Decidable (field.Lacks value)
  | .body, value => inferInstanceAs (Decidable (NotGiven value))
  | .tag, value | .version, value | .date, value | .sourceRepo, value =>
    inferInstanceAs (Decidable (Blank value))

theorem lacks_iff {value : Option Text} :
    field.Lacks value ↔ field.ofVariable (value.getD []) = [] := by
  cases field with
  | body => exact notGiven_iff
  | tag | version | date | sourceRepo => exact blank_iff

theorem resolve_eq_firstGiven (field : Field) (flags : Flags) (env : Environment) :
    field.resolve flags env = firstGiven (field.choices flags env) := rfl

theorem resolve_eq_nil_iff :
    field.resolve flags env = [] ↔
      NotGiven (flags.get field) ∧ ∀ name ∈ field.fallbacks, field.Lacks (env name) := by
  rw [resolve_eq_firstGiven, firstGiven_eq_nil_iff, choices, List.forall_mem_cons, List.forall_mem_map,
    notGiven_iff]
  simp only [lacks_iff]

/-- The choices that the flag of a field and some of its variables leave. -/
def choicesAmong (field : Field) (names : List Text) (flags : Flags) (env : Environment) : List Text :=
  (flags.get field).getD [] :: names.map fun name => field.ofVariable ((env name).getD [])

theorem choicesAmong_congr {names : List Text}
    (sameFlag : (flags'.get field).getD [] = (flags.get field).getD [])
    (same : ∀ name ∈ names,
      field.ofVariable ((env' name).getD []) = field.ofVariable ((env name).getD [])) :
    field.choicesAmong names flags' env' = field.choicesAmong names flags env := by
  unfold choicesAmong
  rw [sameFlag, List.map_congr_left same]

/-- The sources in front of one that yields something are all that matters for a field. -/
theorem resolve_of_settled {before after : List Text} (chain : field.fallbacks = before ++ after)
    (settled : ¬NotGiven (flags.get field) ∨ ∃ name ∈ before, ¬field.Lacks (env name)) :
    field.resolve flags env = firstGiven (field.choicesAmong before flags env) := by
  have split : field.choices flags env = field.choicesAmong before flags env ++
      after.map fun name => field.ofVariable ((env name).getD []) := by
    rw [choices, chain, List.map_append]
    rfl
  have given : ∃ choice ∈ field.choicesAmong before flags env, choice ≠ [] := by
    rcases settled with flag | ⟨name, member, yields⟩
    · exact ⟨_, List.mem_cons_self, mt notGiven_iff.mpr flag⟩
    · refine ⟨_, List.mem_cons_of_mem _ ?_, mt lacks_iff.mpr yields⟩
      exact List.mem_map_of_mem member
  rw [resolve_eq_firstGiven, split, firstGiven_append_of_given given]

theorem resolve_congr_of_settled {before after : List Text} (chain : field.fallbacks = before ++ after)
    (settled : ¬NotGiven (flags.get field) ∨ ∃ name ∈ before, ¬field.Lacks (env name))
    (sameFlag : flags'.get field = flags.get field) (same : ∀ name ∈ before, env' name = env name) :
    field.resolve flags' env' = field.resolve flags env := by
  have alsoSettled : ¬NotGiven (flags'.get field) ∨ ∃ name ∈ before, ¬field.Lacks (env' name) := by
    rcases settled with flag | ⟨name, member, yields⟩
    · exact .inl (sameFlag ▸ flag)
    · exact .inr ⟨name, member, same name member ▸ yields⟩
  rw [resolve_of_settled chain settled, resolve_of_settled chain alsoSettled]
  apply congrArg firstGiven
  apply choicesAmong_congr
  · rw [sameFlag]
  · intro name member
    rw [same name member]

theorem resolve_congr_nothing (sameFlag : SameOrNothing NotGiven (flags'.get field) (flags.get field))
    (same : ∀ name ∈ field.fallbacks, SameOrNothing field.Lacks (env' name) (env name)) :
    field.resolve flags' env' = field.resolve flags env := by
  apply congrArg firstGiven
  apply choicesAmong_congr
  · rcases sameFlag with equal | ⟨nothing, alsoNothing⟩
    · rw [equal]
    · exact (notGiven_iff.mp nothing).trans (notGiven_iff.mp alsoNothing).symm
  · intro name member
    rcases same name member with equal | ⟨nothing, alsoNothing⟩
    · rw [equal]
    · exact (lacks_iff.mp nothing).trans (lacks_iff.mp alsoNothing).symm

/-- The flag of a field and the variables of its chain are all that matters for it. -/
theorem resolve_congr (sameFlag : flags'.get field = flags.get field)
    (same : ∀ name ∈ field.fallbacks, env' name = env name) :
    field.resolve flags' env' = field.resolve flags env := by
  apply resolve_congr_nothing
  · exact .inl sameFlag
  · intro name member
    exact .inl (same name member)

end Field

def Environment.ofList (settings : List (String × String)) : Environment :=
  fun name => (settings.find? (·.1.toList == name)).map (·.2.toList)

def Environment.value (env : Environment) (name : String) : Text :=
  (env name.toList).getD []

namespace Release

theorem ext_get {a b : Release} (same : ∀ field, a.get field = b.get field) : a = b := by
  cases a; cases b
  simp only [mk.injEq]
  exact ⟨same .tag, same .version, same .date, same .body, same .sourceRepo⟩

/-- The chains of sources as they are documented. A variable counts without the space around it, unless
it holds a body. -/
structure TakenFrom (flags : Flags) (env : Environment) (release : Release) : Prop where
  tag : IsFirstGiven
    [flags.tag.getD [], trim (env.value "RELEASE_TAG"), trim (env.value "GITHUB_REF_NAME"),
      trim (env.value "RELEASE_VERSION")] release.tag
  version : IsFirstGiven [flags.version.getD [], trim (env.value "RELEASE_VERSION")] release.version
  date : IsFirstGiven
    [flags.date.getD [], trim (env.value "RELEASE_DATE"), trim (env.value "RELEASE_PUBLISHED_AT"),
      trim (env.value "GITHUB_EVENT_RELEASE_PUBLISHED_AT")] release.date
  body : IsFirstGiven
    [flags.body.getD [], env.value "RELEASE_BODY", env.value "GITHUB_EVENT_RELEASE_BODY"] release.body
  sourceRepo : IsFirstGiven
    [flags.sourceRepo.getD [], trim (env.value "SOURCE_REPO"), trim (env.value "GITHUB_REPOSITORY")]
    release.sourceRepo

theorem takenFrom_iff {flags : Flags} {env : Environment} {release : Release} :
    TakenFrom flags env release ↔ release = resolve flags env := by
  constructor
  · intro taken
    apply ext_get
    intro field
    cases field with
    | tag => exact isFirstGiven_iff.mp taken.tag
    | version => exact isFirstGiven_iff.mp taken.version
    | date => exact isFirstGiven_iff.mp taken.date
    | body => exact isFirstGiven_iff.mp taken.body
    | sourceRepo => exact isFirstGiven_iff.mp taken.sourceRepo
  · rintro rfl
    constructor <;> exact isFirstGiven_iff.mpr rfl

/-- All fields of a release as flags. -/
def asFlags (release : Release) : Flags where
  tag := some release.tag
  version := some release.version
  date := some release.date
  body := some release.body
  sourceRepo := some release.sourceRepo

@[simp] theorem get_asFlags (release : Release) (field : Field) :
    release.asFlags.get field = some (release.get field) := by
  cases field <;> rfl

theorem resolve_asFlags (flags : Flags) (env : Environment) :
    resolve (resolve flags env).asFlags env = resolve flags env := by
  apply ext_get
  intro field
  simp only [get_resolve, Field.resolve_eq_firstGiven, Field.choices, get_asFlags, Option.getD_some]
  exact firstGiven_again _ _

/-- The release of flags and environment is the one that has in each field what the documented chain of the
field asks for. A source that yields nothing counts as one that is not there. A field depends on its own
chain only, and there on nothing behind a source that yields something. A release that is passed back as
flags stays as it is. -/
theorem resolve_exact (flags : Flags) (env : Environment) :
    (∀ release, TakenFrom flags env release ↔ release = resolve flags env) ∧
    (∀ flags' env', (∀ field : Field, SameOrNothing NotGiven (flags'.get field) (flags.get field) ∧
        ∀ name ∈ field.fallbacks, SameOrNothing field.Lacks (env' name) (env name)) →
      resolve flags' env' = resolve flags env) ∧
    (∀ field flags' env', flags'.get field = flags.get field →
      (∀ name ∈ field.fallbacks, env' name = env name) →
      (resolve flags' env').get field = (resolve flags env).get field) ∧
    (∀ field before after flags' env', field.fallbacks = before ++ after →
      (¬NotGiven (flags.get field) ∨ ∃ name ∈ before, ¬field.Lacks (env name)) →
      flags'.get field = flags.get field → (∀ name ∈ before, env' name = env name) →
      (resolve flags' env').get field = (resolve flags env).get field) ∧
    resolve (resolve flags env).asFlags env = resolve flags env := by
  refine ⟨fun release => takenFrom_iff, ?_, ?_, ?_, resolve_asFlags flags env⟩
  · intro flags' env' same
    apply ext_get
    intro field
    rw [get_resolve, get_resolve]
    exact Field.resolve_congr_nothing (same field).1 (same field).2
  · intro field flags' env' sameFlag same
    rw [get_resolve, get_resolve]
    exact Field.resolve_congr sameFlag same
  · intro field before after flags' env' chain settled sameFlag same
    rw [get_resolve, get_resolve]
    exact Field.resolve_congr_of_settled chain settled sameFlag same

/-- An empty flag and a blank variable in front of the tag that is taken, and changes that leave it. -/
theorem resolve_exact_emptyAndBlank :
    let flags : Flags := { tag := some [] }
    let env := Environment.ofList
      [("RELEASE_TAG", "\u3000"), ("GITHUB_REF_NAME", " v3 "), ("RELEASE_VERSION", "3.0\n")]
    let unset := Environment.ofList
      [("GITHUB_REF_NAME", " v3 "), ("RELEASE_VERSION", "3.0\n"), ("RELEASE_BODY", "")]
    let other := Environment.ofList
      [("RELEASE_TAG", "\u3000"), ("GITHUB_REF_NAME", " v3 "), ("RELEASE_VERSION", "4"), ("SOURCE_REPO", "o/r")]
    TakenFrom flags env { tag := "v3".toList, version := "3.0".toList } ∧
    resolve {} unset = resolve flags env ∧
    (resolve { date := some ['d'], tag := some [] } other).get .tag = (resolve flags env).get .tag ∧
    (resolve {} other).get .body = (resolve flags env).get .body := by
  intro flags env unset other
  obtain ⟨taken, nothing, outside, behind, -⟩ := resolve_exact flags env
  refine ⟨?_, ?_, ?_, ?_⟩
  · apply (taken _).mpr
    decide +kernel
  · apply nothing
    intro field
    constructor
    · cases field <;> decide
    · cases field <;> decide +kernel
  · apply behind .tag ["RELEASE_TAG".toList, "GITHUB_REF_NAME".toList] ["RELEASE_VERSION".toList]
    · rfl
    · exact .inr ⟨"GITHUB_REF_NAME".toList, by decide, by decide +kernel⟩
    · rfl
    · decide +kernel
  · apply outside
    · rfl
    · decide +kernel

end Release

theorem versionOr_eq_nil_iff {tag version : Text} : versionOr tag version = [] ↔ tag = [] ∧ version = [] := by
  unfold versionOr
  split <;> simp_all

theorem versionOr_nil (tag : Text) :
    (versionOr tag [] = tag ∨ tag = 'v' :: versionOr tag []) ∧
      (tag = 'v' :: versionOr tag [] ↔ tag.head? = some 'v' ∧ 1 < tag.length) := by
  unfold versionOr
  split
  case h_1 => simp
  case h_2 alone =>
    refine ⟨.inl rfl, iff_of_false (by simp) ?_⟩
    rintro ⟨first, long⟩
    obtain ⟨rest, rfl⟩ := List.head?_eq_some_iff.mp first
    cases rest with
    | nil => simp at long
    | cons c rest => exact alone c rest rfl
  case h_3 given _ => exact absurd rfl given

namespace Release

variable {flags : Flags} {env : Environment}

theorem version_eq_nil_iff :
    (resolve flags env).version = [] ↔
      NotGiven flags.version ∧ Blank (env "RELEASE_VERSION".toList) := by
  change Field.version.resolve flags env = [] ↔ _
  rw [Field.resolve_eq_nil_iff]
  simp [Flags.get, Field.fallbacks, Field.Lacks]

theorem tag_eq_nil_iff :
    (resolve flags env).tag = [] ↔
      NotGiven flags.tag ∧ Blank (env "RELEASE_TAG".toList) ∧ Blank (env "GITHUB_REF_NAME".toList) ∧
        Blank (env "RELEASE_VERSION".toList) := by
  change Field.tag.resolve flags env = [] ↔ _
  rw [Field.resolve_eq_nil_iff]
  simp [Flags.get, Field.fallbacks, Field.Lacks]

/-- A document is without a version only if neither a version nor a tag could be had from anywhere, so one
with a tag has a version. It is the tag where no version is given, less one `v` exactly if the tag
begins with it and goes on. -/
theorem document_version_exact (flags : Flags) (env : Environment) :
    let release := resolve flags env
    (release.document.version = [] ↔
      NotGiven flags.version ∧ NotGiven flags.tag ∧ Blank (env "RELEASE_VERSION".toList) ∧
        Blank (env "RELEASE_TAG".toList) ∧ Blank (env "GITHUB_REF_NAME".toList)) ∧
    (release.document.tag ≠ [] → release.document.version ≠ []) ∧
    (release.version = [] →
      (release.document.version = release.document.tag ∨
        release.document.tag = 'v' :: release.document.version) ∧
      (release.document.tag = 'v' :: release.document.version ↔
        release.document.tag.head? = some 'v' ∧ 1 < release.document.tag.length)) := by
  intro release
  have derived : release.document.version = versionOr release.tag release.version := rfl
  have copied : release.document.tag = release.tag := rfl
  rw [derived, copied]
  refine ⟨?_, ?_, ?_⟩
  · rw [versionOr_eq_nil_iff, tag_eq_nil_iff, version_eq_nil_iff]
    constructor
    · rintro ⟨⟨noTag, blankTag, blankName, blankVersion⟩, noVersion, -⟩
      exact ⟨noVersion, noTag, blankVersion, blankTag, blankName⟩
    · rintro ⟨noVersion, noTag, blankVersion, blankTag, blankName⟩
      exact ⟨⟨noTag, blankTag, blankName, blankVersion⟩, noVersion, blankVersion⟩
  · intro tagged nothing
    exact tagged (versionOr_eq_nil_iff.mp nothing).1
  · intro unversioned
    rw [unversioned]
    exact versionOr_nil release.tag

/-- A tag that is only a `v`, behind a blank version. -/
theorem document_version_exact_onlyV :
    let env := Environment.ofList [("RELEASE_VERSION", "\u00a0"), ("GITHUB_REF_NAME", "v\n")]
    let release := resolve { version := some [] } env
    release.version = [] ∧ release.document.tag = ['v'] ∧ release.document.version ≠ [] ∧
      release.document.version = ['v'] := by
  intro env release
  obtain ⟨-, tagged, derived⟩ := document_version_exact { version := some [] } env
  have unversioned : release.version = [] := by decide +kernel
  have tag : release.document.tag = ['v'] := by decide +kernel
  refine ⟨unversioned, tag, ?_, ?_⟩
  · apply tagged
    rw [tag]
    exact List.cons_ne_nil _ _
  · obtain ⟨whole | shortened, exact⟩ := derived unversioned
    · rw [whole, tag]
    · have long := (exact.mp shortened).2
      rw [tag] at long
      contradiction

end Release

end ReleaseNotes
