import ApiTypings.Category
import ApiTypings.Number.Decimal
import ApiTypings.Settings.Basic

/-!
# Arguments

The arguments name a command and its options, and are read from left to right. An
option with a value takes it from behind an equals sign or from the next argument,
which then must not start with a hyphen unless it is one. Options that can be
given only once are refused the second time, and at most one of `--all`,
`--category` and `--id` can be used. Asking for help or the version ends the
reading, so faults after it do not count, but those before it do.
-/

namespace ApiTypings.Command

inductive Topic where
  | program
  | list
  | generate
  /-- The same as `generate`, with one line for each option. -/
  | generateBriefly
  | help
  deriving DecidableEq, Repr

inductive OptionName where
  | config
  | baseUrl
  | token
  | all
  | category
  | id
  | out
  | concurrency
  | collision
  deriving DecidableEq, Repr

namespace OptionName

/-- The name as it is typed, without the hyphens. -/
def text : OptionName → String
  | .config => "config"
  | .baseUrl => "base-url"
  | .token => "token"
  | .all => "all"
  | .category => "category"
  | .id => "id"
  | .out => "out"
  | .concurrency => "concurrency"
  | .collision => "collision"

def forList : List OptionName := [config, baseUrl, token]

def forGenerate : List OptionName :=
  forList ++ [all, category, id, out, concurrency, collision]

def isRepeatable (o : OptionName) : Bool := o == category || o == id

def isFlag (o : OptionName) : Bool := o == all

end OptionName

structure Options where
  config : Option String
  settings : Layer
  all : Bool
  categories : List String
  ids : List Nat
  deriving DecidableEq, Repr

namespace Options

def none : Options := ⟨.none, .empty, false, [], []⟩

/-- How many of the ways to select are used. -/
def selectors (o : Options) : Nat :=
  (if o.all then 1 else 0) + (if o.categories.isEmpty then 0 else 1) +
    (if o.ids.isEmpty then 0 else 1)

/-- What is selected; everything unless something else is. -/
def selection (o : Options) : Selection :=
  if !o.ids.isEmpty then .byId o.ids
  else if !o.categories.isEmpty then .byCategory o.categories
  else .all

def maxNumber : Nat := Nat.pow 2 64 - 1

/-- Takes the value of an option, unless the option cannot have it. -/
def set? (o : Options) (name : OptionName) (value : String) : Option Options :=
  match name with
  | .config => if value.isEmpty then .none else some { o with config := value }
  | .baseUrl => some { o with settings := { o.settings with baseUrl := value } }
  | .token => some { o with settings := { o.settings with token := value } }
  | .all => some { o with all := true }
  | .category => some { o with categories := o.categories ++ [value] }
  | .id => (Number.natural? maxNumber value).map fun n => { o with ids := o.ids ++ [n] }
  | .out =>
    if value.isEmpty then .none
    else some { o with settings := { o.settings with outDirectory := value } }
  | .concurrency =>
    (Number.natural? maxNumber value).map fun n =>
      { o with settings := { o.settings with concurrency := some n } }
  | .collision =>
    (Collision.ofName? value).map fun c =>
      { o with settings := { o.settings with collision := some c } }

end Options

inductive UsageError where
  | unexpected (argument : String)
  | unknownCommand (name : String)
  | missingValue (option : OptionName)
  | superfluousValue (option : String)
  | invalidValue (option : OptionName) (value : String)
  | repeated (option : OptionName)
  | severalSelectors
  deriving DecidableEq, Repr

def UsageError.message : UsageError → String
  | .unexpected argument => "unexpected argument '" ++ argument ++ "' found"
  | .unknownCommand name => "unrecognized subcommand '" ++ name ++ "'"
  | .missingValue option =>
    "a value is required for '--" ++ option.text ++ "' but none was supplied"
  | .superfluousValue option => "unexpected value for '" ++ option ++ "' found"
  | .invalidValue option value => "invalid value '" ++ value ++ "' for '--" ++ option.text ++ "'"
  | .repeated option => "the argument '--" ++ option.text ++ "' cannot be used multiple times"
  | .severalSelectors => "'--all', '--category' and '--id' cannot be used together"

inductive Invocation where
  | nothing
  | help (topic : Topic)
  | version
  | list (options : Options)
  | generate (options : Options)
  deriving DecidableEq, Repr

/-- What an argument is, by its hyphens. -/
inductive Argument where
  /-- Two hyphens alone: what follows are no options. -/
  | terminator
  | long (name : String) (value : Option String)
  | short (letter : Char)
  | plain

namespace Argument

/-- Tells what an argument is. A hyphen alone is a plain argument. -/
def of (s : String) : Argument :=
  match s.toList with
  | '-' :: '-' :: [] => .terminator
  | '-' :: '-' :: rest =>
    let (name, value) := Text.splitFirst (· == '=') rest
    .long (.ofList name) (value.map .ofList)
  | '-' :: c :: _ => .short c
  | _ => .plain

/-- Whether an argument can be the value of the option before it. -/
def isValue (s : String) : Bool :=
  match of s with
  | .plain => true
  | _ => false

end Argument

/-- A command with options. -/
structure CommandForm where
  options : List OptionName
  topic : Topic
  brief : Topic

/-- The options read so far, with the names that were used. -/
structure Reading where
  options : Options
  used : List OptionName

def Reading.take (r : Reading) (name : OptionName) (value : String) : Except UsageError Reading :=
  if r.used.contains name && !name.isRepeatable then .error (.repeated name)
  else
    match r.options.set? name value with
    | none => .error (.invalidValue name value)
    | some options => .ok ⟨options, name :: r.used⟩

/-- What reading options leads to: help on something, or the options. -/
abbrev OptionsResult := Except UsageError (Topic ⊕ Options)

def Reading.finish (r : Reading) : OptionsResult :=
  if 1 < r.options.selectors then .error .severalSelectors else .ok (.inr r.options)

def readOptions (form : CommandForm) (r : Reading) : List String → OptionsResult
  | [] => r.finish
  | s :: rest =>
    match Argument.of s with
    | .plain => .error (.unexpected s)
    | .short letter => if letter == 'h' then .ok (.inl form.brief) else .error (.unexpected s)
    | .terminator =>
      match rest with
      | [] => r.finish
      | argument :: _ => .error (.unexpected argument)
    | .long text value =>
      if text == "help" then
        if value.isSome then .error (.superfluousValue s) else .ok (.inl form.topic)
      else
        match form.options.find? (·.text == text), value with
        | none, _ => .error (.unexpected s)
        | some name, some value =>
          if name.isFlag then .error (.superfluousValue s)
          else
            match r.take name value with
            | .error e => .error e
            | .ok r => readOptions form r rest
        | some name, none =>
          if name.isFlag then
            match r.take name "" with
            | .error e => .error e
            | .ok r => readOptions form r rest
          else
            match rest with
            | [] => .error (.missingValue name)
            | value :: rest =>
              if Argument.isValue value then
                match r.take name value with
                | .error e => .error e
                | .ok r => readOptions form r rest
              else .error (.missingValue name)

def invoke (form : CommandForm) (command : Options → Invocation) (arguments : List String) :
    Except UsageError Invocation :=
  (readOptions form ⟨.none, []⟩ arguments).map fun
    | .inl topic => .help topic
    | .inr options => command options

/-- The topic that a command's name stands for. -/
def Topic.ofName? : String → Option Topic
  | "list" => some .list
  | "generate" => some .generate
  | "help" => some .help
  | _ => none

/-- What help on the given names is about. No command has commands of its own. -/
def topicOf : List String → Except UsageError Topic
  | [] => .ok .program
  | name :: rest =>
    match Topic.ofName? name, rest with
    | none, _ => .error (.unknownCommand name)
    | some topic, [] => .ok topic
    | some _, other :: _ => .error (.unknownCommand other)

def readArguments : List String → Except UsageError Invocation
  | [] => .ok .nothing
  | s :: rest =>
    match Argument.of s with
    | .terminator =>
      match rest with
      | [] => .ok .nothing
      | argument :: _ => .error (.unexpected argument)
    | .short letter =>
      if letter == 'h' then .ok (.help .program)
      else if letter == 'V' then .ok .version
      else .error (.unexpected s)
    | .long text value =>
      if text == "help" && value.isNone then .ok (.help .program)
      else if text == "version" && value.isNone then .ok .version
      else .error (.unexpected s)
    | .plain =>
      match s with
      | "list" => invoke ⟨OptionName.forList, .list, .list⟩ .list rest
      | "generate" => invoke ⟨OptionName.forGenerate, .generate, .generateBriefly⟩ .generate rest
      | "help" => (topicOf rest).map .help
      | _ => .error (.unknownCommand s)

end ApiTypings.Command
