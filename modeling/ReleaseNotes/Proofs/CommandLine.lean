import ReleaseNotes.CommandLine.Options
import ReleaseNotes.Proofs.Trimmed

/-! Command lines that are read. Each setting has its spellings, and read one after the other in any order they
give the options that say what was set: its value for each field, and for each switch whether it is on. -/
namespace ReleaseNotes

open Text

namespace Flags

def ofFields (value : Field → Option Text) : Flags where
  tag := value .tag
  version := value .version
  date := value .date
  body := value .body
  sourceRepo := value .sourceRepo

@[simp] theorem get_ofFields (value : Field → Option Text) (field : Field) :
    (ofFields value).get field = value field := by
  cases field <;> rfl

theorem ext_get {a b : Flags} (same : ∀ field, a.get field = b.get field) : a = b := by
  cases a
  cases b
  have tag := same .tag
  have version := same .version
  have date := same .date
  have body := same .body
  have sourceRepo := same .sourceRepo
  simp_all [get]

end Flags

/-- What may be set, at most once on a command line. -/
inductive Slot where
  | field (field : Field)
  | pretty
  | verbose
  deriving DecidableEq, Repr

/-- One setting in one of its spellings. -/
inductive Setting where
  /-- A value for a field, joined to the option by an equals sign or as an argument of its own. -/
  | field (field : Field) (value : Text) (joined : Bool)
  | pretty
  | verbose (short : Bool)
  deriving DecidableEq, Repr

namespace Setting

def slot : Setting → Slot
  | .field f _ _ => .field f
  | .pretty => .pretty
  | .verbose _ => .verbose

def arguments : Setting → List Argument
  | .field f value true => [{ text := "--".toList ++ f.option ++ '=' :: value }]
  | .field f value false => [{ text := "--".toList ++ f.option }, { text := value }]
  | .pretty => [{ text := "--pretty".toList }]
  | .verbose true => [{ text := "-v".toList }]
  | .verbose false => [{ text := "--verbose".toList }]

/-- An argument of its own begins with no dash, unless it is nothing but a dash. -/
def Readable : Setting → Prop
  | .field _ value false => value = ['-'] ∨ value.head? ≠ some '-'
  | _ => True

/-- The value that is set for a field, if it is this field's. -/
def valueFor? (wanted : Field) : Setting → Option Text
  | .field f value _ => if f = wanted then some value else none
  | _ => none

theorem valueFor?_of_slot_ne {setting : Setting} {f : Field} (apart : setting.slot ≠ .field f) :
    setting.valueFor? f = none := by
  cases setting with
  | field other value joined =>
    have different : other ≠ f := fun same => apart (congrArg Slot.field same)
    rw [valueFor?, if_neg different]
  | pretty => rfl
  | verbose short => rfl

theorem findSome?_valueFor?_of_not_mem {settings : List Setting} {f : Field}
    (absent : .field f ∉ settings.map slot) : settings.findSome? (valueFor? f) = none := by
  refine List.findSome?_eq_none_iff.mpr fun setting member => valueFor?_of_slot_ne ?_
  intro same
  exact absent (same ▸ List.mem_map_of_mem member)

end Setting

namespace Word

theorem ofText_of_long {body : Text} (given : body ≠ []) :
    ofText ('-' :: '-' :: body) =
      match body.span (· != '=') with
      | (name, '=' :: value) => .long name (some value)
      | (name, _) => .long name none := by
  obtain ⟨c, rest, rfl⟩ := List.exists_cons_of_ne_nil given
  rfl

theorem ofText_joined {name : Text} (plain : '=' ∉ name) (value : Text) :
    ofText ('-' :: '-' :: (name ++ '=' :: value)) = .long name (some value) := by
  have cut : (name ++ '=' :: value).span (· != '=') = (name, '=' :: value) :=
    span_ne_eq_iff.mpr ⟨rfl, plain, .inr rfl⟩
  rw [ofText_of_long (by simp), cut]
  rfl

theorem ofText_bare {name : Text} (given : name ≠ []) (plain : '=' ∉ name) :
    ofText ('-' :: '-' :: name) = .long name none := by
  have cut : name.span (· != '=') = (name, []) :=
    span_ne_eq_iff.mpr ⟨(List.append_nil name).symm, plain, .inl rfl⟩
  rw [ofText_of_long given, cut]

theorem ofText_plain {text : Text} (plain : text = ['-'] ∨ text.head? ≠ some '-') :
    ofText text = .plain := by
  unfold ofText
  split
  all_goals simp_all

end Word

theorem Field.plain_option (field : Field) : field.option ≠ [] ∧ '=' ∉ field.option := by
  cases field <;> decide

namespace Options

def set (options : Options) : Setting → Options
  | .field f value _ => { options with flags := options.flags.set f value }
  | .pretty => { options with pretty := true }
  | .verbose _ => { options with verbose := true }

def holds (options : Options) : Slot → Bool
  | .field f => (options.flags.get f).isSome
  | .pretty => options.pretty
  | .verbose => options.verbose

theorem holds_set (options : Options) (setting : Setting) (slot : Slot) :
    (options.set setting).holds slot = (options.holds slot || setting.slot == slot) := by
  cases setting with
  | field f value joined =>
    cases slot with
    | field other =>
      by_cases same : f = other
      · subst same
        simp [set, holds, Setting.slot]
      · simp [set, holds, Setting.slot, same, Flags.get_set_of_ne _ _ same]
    | pretty => simp [set, holds, Setting.slot]
    | verbose => simp [set, holds, Setting.slot]
  | pretty => cases slot <;> simp [set, holds, Setting.slot]
  | verbose short => cases slot <;> simp [set, holds, Setting.slot]

theorem readFrom_field (options : Options) {f : Field} {value : Text} {joined : Bool}
    (readable : (Setting.field f value joined).Readable) (rest : List Argument) :
    options.readFrom ((Setting.field f value joined).arguments ++ rest) =
      (do (← options.give f { text := value }).readFrom rest) := by
  obtain ⟨given, plain⟩ := f.plain_option
  cases joined with
  | true =>
    have word : Word.ofText ("--".toList ++ f.option ++ '=' :: value) = .long f.option (some value) :=
      Word.ofText_joined plain value
    rw [Setting.arguments, List.singleton_append, readFrom, word]
    simp only [Field.ofOption?_option]
    rfl
  | false =>
    have word : Word.ofText ("--".toList ++ f.option) = .long f.option none :=
      Word.ofText_bare given plain
    have ownWord : looksLikeOption { text := value } = false := by
      rw [looksLikeOption, Word.ofText_plain readable]
    rw [Setting.arguments, List.cons_append, List.singleton_append, readFrom, word]
    simp only [Field.ofOption?_option, ownWord]
    rfl

theorem readFrom_switch (options : Options) {spelling name : Text}
    (word : Word.ofText spelling = .long name none) (noField : Field.ofOption? name = none)
    (rest : List Argument) :
    options.readFrom ({ text := spelling } :: rest) =
      (do (← options.readSwitch name).readFrom rest) := by
  rw [readFrom, word]
  simp only [noField]
  rfl

/-- A setting whose slot is free is read in any of its spellings, whatever stands behind it. -/
theorem readFrom_arguments_append {options : Options} {setting : Setting}
    (free : options.holds setting.slot = false) (readable : setting.Readable) (rest : List Argument) :
    options.readFrom (setting.arguments ++ rest) = (options.set setting).readFrom rest := by
  cases setting with
  | field f value joined =>
    have unset : options.flags.get f = none := by simpa [holds, Setting.slot] using free
    rw [readFrom_field options readable, give, unset]
    rfl
  | pretty =>
    have off : options.pretty = false := free
    have word : Word.ofText "--pretty".toList = .long "pretty".toList none := by decide
    rw [Setting.arguments, List.singleton_append, readFrom_switch options word (by decide), readSwitch,
      switchPretty, off]
    rfl
  | verbose short =>
    have off : options.verbose = false := free
    cases short with
    | true =>
      have word : Word.ofText "-v".toList = .short ['v'] := by decide
      rw [Setting.arguments, List.singleton_append, readFrom, word]
      simp only [readLetters, switchVerbose, off]
      rfl
    | false =>
      have word : Word.ofText "--verbose".toList = .long "verbose".toList none := by decide
      rw [Setting.arguments, List.singleton_append, readFrom_switch options word (by decide), readSwitch,
        switchVerbose, off]
      rfl

theorem readFrom_settings {settings : List Setting} {options : Options}
    (once : (settings.map Setting.slot).Nodup)
    (free : ∀ setting ∈ settings, options.holds setting.slot = false)
    (readable : ∀ setting ∈ settings, setting.Readable) :
    options.readFrom (settings.flatMap Setting.arguments) = .ok (settings.foldl set options) := by
  induction settings generalizing options with
  | nil => rfl
  | cons setting rest ih =>
    rw [List.map_cons, List.nodup_cons] at once
    obtain ⟨new, onceRest⟩ := once
    have freeRest : ∀ later ∈ rest, (options.set setting).holds later.slot = false := by
      intro later member
      have apart : setting.slot ≠ later.slot := fun same =>
        new (same ▸ List.mem_map_of_mem member)
      rw [holds_set, free later (by simp [member])]
      simpa using apart
    rw [List.flatMap_cons, readFrom_arguments_append (free setting (by simp)) (readable setting (by simp)),
      ih onceRest freeRest fun later member => readable later (by simp [member]), List.foldl_cons]

theorem holds_foldl_set (settings : List Setting) (options : Options) (slot : Slot) :
    (settings.foldl set options).holds slot = (options.holds slot || settings.any (·.slot == slot)) := by
  induction settings generalizing options with
  | nil => simp
  | cons setting rest ih => rw [List.foldl_cons, ih, holds_set, List.any_cons, Bool.or_assoc]

theorem get_foldl_set {settings : List Setting} (once : (settings.map Setting.slot).Nodup)
    (options : Options) (f : Field) :
    (settings.foldl set options).flags.get f =
      (settings.findSome? (Setting.valueFor? f)).or (options.flags.get f) := by
  induction settings generalizing options with
  | nil => rfl
  | cons setting rest ih =>
    rw [List.map_cons, List.nodup_cons] at once
    obtain ⟨new, onceRest⟩ := once
    rw [List.foldl_cons, ih onceRest, List.findSome?_cons]
    cases setting with
    | field other value joined =>
      by_cases same : other = f
      · subst same
        have unset := Setting.findSome?_valueFor?_of_not_mem new
        simp [unset, set, Setting.valueFor?]
      · simp [set, Setting.valueFor?, same, Flags.get_set_of_ne _ _ same]
    | pretty => rfl
    | verbose short => rfl

end Options

/-- Settings, in the order of a command line. -/
structure CommandLine where
  settings : List Setting
  once : (settings.map Setting.slot).Nodup
  readable : ∀ setting ∈ settings, setting.Readable

namespace CommandLine

def arguments (line : CommandLine) : List Argument :=
  line.settings.flatMap Setting.arguments

/-- The value a command line gives for a field. -/
def value? (line : CommandLine) (field : Field) : Option Text :=
  line.settings.findSome? (Setting.valueFor? field)

def isSet (line : CommandLine) (slot : Slot) : Bool :=
  line.settings.any (·.slot == slot)

/-- What a command line says, whatever the order in which it says it. -/
def options (line : CommandLine) : Options where
  flags := .ofFields line.value?
  pretty := line.isSet .pretty
  verbose := line.isSet .verbose

theorem read_arguments (line : CommandLine) : Options.read line.arguments = .ok line.options := by
  have free : ∀ setting ∈ line.settings, ({} : Options).holds setting.slot = false := by
    intro setting _
    cases setting.slot with
    | field f => cases f <;> rfl
    | pretty => rfl
    | verbose => rfl
  have pretty := Options.holds_foldl_set line.settings {} .pretty
  have verbose := Options.holds_foldl_set line.settings {} .verbose
  have flags : (line.settings.foldl Options.set {}).flags = .ofFields line.value? := by
    refine Flags.ext_get fun f => ?_
    rw [Options.get_foldl_set line.once, Flags.get_ofFields, value?]
    cases f <;> simp [Flags.get]
  rw [Options.read, arguments, Options.readFrom_settings line.once free line.readable]
  generalize line.settings.foldl Options.set {} = options at *
  obtain ⟨given, isPretty, isVerbose⟩ := options
  obtain rfl : given = _ := flags
  obtain rfl : isPretty = line.isSet .pretty := pretty
  obtain rfl : isVerbose = line.isSet .verbose := verbose
  rfl

end CommandLine

end ReleaseNotes
