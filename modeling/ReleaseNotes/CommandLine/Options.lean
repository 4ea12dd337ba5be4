import ReleaseNotes.Release.Source

/-! The options of the command line. Arguments are read from the left and reading stops at the first
that asks for help or cannot be used, so what stands behind it does not matter. -/
namespace ReleaseNotes

/-- An argument as it was handed over: its text, or as much of it as is text in front of the first
byte that is none. -/
structure Argument where
  text : Text
  complete : Bool := true
  deriving DecidableEq, Repr

def Argument.ofBytes (bytes : List UInt8) : Argument :=
  match Text.ofUtf8? bytes with
  | some text => { text }
  | none =>
    let starts := (List.range bytes.length).reverse.map (bytes.take ·)
    { text := (starts.findSome? Text.ofUtf8?).getD [], complete := false }

inductive HelpForm where
  | summary
  | full
  deriving DecidableEq, Repr

inductive Stop where
  | help (form : HelpForm)
  | usage
  deriving DecidableEq, Repr

/-- What an argument looks like in the place of an option. -/
inductive Word where
  /-- Two dashes; only values may follow, and there are none to follow. -/
  | separator
  | long (name : Text) (value? : Option Text)
  | short (letters : Text)
  | plain
  deriving DecidableEq, Repr

namespace Word

def ofText : Text → Word
  | ['-', '-'] => .separator
  | '-' :: '-' :: body =>
    match body.span (· != '=') with
    | (name, '=' :: value) => .long name (some value)
    | (name, _) => .long name none
  | '-' :: letter :: letters => .short (letter :: letters)
  | _ => .plain

end Word

structure Options where
  flags : Flags := {}
  pretty : Bool := false
  verbose : Bool := false
  deriving DecidableEq, Repr

def Field.option : Field → Text
  | .tag => "tag".toList
  | .version => "version".toList
  | .date => "date".toList
  | .body => "body".toList
  | .sourceRepo => "source-repo".toList

def Field.ofOption? (name : Text) : Option Field :=
  Field.all.find? (·.option == name)

@[simp] theorem Field.ofOption?_option (field : Field) : Field.ofOption? field.option = some field := by
  cases field <;> decide

namespace Options

/-- No field may be given twice, and its value has to be text. -/
def give (options : Options) (field : Field) (value : Argument) : Except Stop Options :=
  if value.complete && (options.flags.get field).isNone then
    .ok { options with flags := options.flags.set field value.text }
  else .error .usage

def switchPretty (options : Options) : Except Stop Options :=
  if options.pretty then .error .usage else .ok { options with pretty := true }

def switchVerbose (options : Options) : Except Stop Options :=
  if options.verbose then .error .usage else .ok { options with verbose := true }

/-- Short options run together behind one dash. -/
def readLetters (options : Options) : Text → Except Stop Options
  | [] => .ok options
  | 'h' :: _ => .error (.help .summary)
  | 'v' :: letters => do (← options.switchVerbose).readLetters letters
  | _ => .error .usage

def readSwitch (options : Options) (name : Text) : Except Stop Options :=
  if name == "pretty".toList then options.switchPretty
  else if name == "verbose".toList then options.switchVerbose
  else if name == "help".toList then .error (.help .full)
  else .error .usage

/-- Whether an argument cannot be the value of the option before it. -/
def looksLikeOption (argument : Argument) : Bool :=
  match Word.ofText argument.text with
  | .plain => false
  | _ => true

def readFrom (options : Options) : List Argument → Except Stop Options
  | [] => .ok options
  | argument :: rest =>
    match Word.ofText argument.text with
    | .plain => .error .usage
    | .separator => if argument.complete && rest.isEmpty then .ok options else .error .usage
    | .short letters => do
      let options ← options.readLetters letters
      if argument.complete then options.readFrom rest else .error .usage
    | .long name value? =>
      if !argument.complete then .error .usage
      else match Field.ofOption? name, value? with
      | some field, some value => do (← options.give field { text := value }).readFrom rest
      | some field, none =>
        match rest with
        | [] => .error .usage
        | value :: rest =>
          if looksLikeOption value then .error .usage
          else do (← options.give field value).readFrom rest
      | none, some _ => .error .usage
      | none, none => do (← options.readSwitch name).readFrom rest

def read (arguments : List Argument) : Except Stop Options :=
  ({} : Options).readFrom arguments

@[simp] theorem readFrom_nil (options : Options) : options.readFrom [] = .ok options := rfl

end Options

end ReleaseNotes
