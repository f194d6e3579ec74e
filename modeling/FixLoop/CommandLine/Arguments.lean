import FixLoop.Text.Digit

/-!
Arguments: options start with a hyphen, and all else is positional, as is everything after two
hyphens alone. A value follows its option, or an equals sign in a long option, or the letter of a
short one; letters of short options may be joined.
-/

namespace FixLoop

/-- One option by all its spellings; the first is the one by which it is known. -/
structure OptionSpec where
  spellings : List String
  takesValue : Bool := true
  deriving Repr, DecidableEq

inductive UsageFault where
  | unknownOption (spelling : String)
  | missingValue (spelling : String)
  | unexpectedValue (spelling : String)
  | notAnInteger (spelling value : String)
  | unexpectedArgument (argument : String)
  | noCommand
  | unknownCommand (name : String)
  deriving Repr, DecidableEq

def UsageFault.message : UsageFault → String
  | unknownOption spelling => "No such option: " ++ spelling
  | missingValue spelling => "Option '" ++ spelling ++ "' requires an argument."
  | unexpectedValue spelling => "Option '" ++ spelling ++ "' does not take a value."
  | notAnInteger spelling value =>
    "Invalid value for '" ++ spelling ++ "': '" ++ value ++ "' is not a valid integer."
  | unexpectedArgument argument => "Got unexpected extra argument (" ++ argument ++ ")"
  | noCommand => "Missing command."
  | unknownCommand name => "No such command '" ++ name ++ "'."

/-- What arguments hold: options with their values, which are empty for flags, in order; and what
is positional. -/
structure Arguments where
  options : List (String × String) := []
  positional : List String := []
  deriving Repr, DecidableEq

namespace Arguments

/-- The values of an option, in order. -/
def values (arguments : Arguments) (name : String) : List String :=
  (arguments.options.filter (·.1 == name)).map (·.2)

/-- The last value of an option. -/
def value? (arguments : Arguments) (name : String) : Option String :=
  (arguments.values name).getLast?

def has (arguments : Arguments) (name : String) : Bool := arguments.options.any (·.1 == name)

/-- The last value of an option, as a whole number. -/
def integer? (arguments : Arguments) (name : String) : Except UsageFault (Option Int) :=
  match arguments.value? name with
  | none => .ok none
  | some text =>
    match Text.integer? text.toList with
    | some n => .ok (some n)
    | none => .error (.notAnInteger name text)

def withOption (name value : String) (arguments : Arguments) : Arguments :=
  { arguments with options := (name, value) :: arguments.options }

def withPositional (argument : String) (arguments : Arguments) : Arguments :=
  { arguments with positional := argument :: arguments.positional }

def spec? (specs : List OptionSpec) (spelling : String) : Option OptionSpec :=
  specs.find? (spelling ∈ ·.spellings)

/-- The option of a long spelling. -/
def longSpec? (specs : List OptionSpec) (spelling : String) : Option OptionSpec :=
  if ['-', '-'].isPrefixOf spelling.toList then spec? specs spelling else none

def OptionSpec.name (spec : OptionSpec) : String := spec.spellings.headD ""

/-- What one argument that starts with a hyphen says. -/
inductive Reading where
  /-- Options in order, all with their values. -/
  | complete (options : List (String × String))
  /-- Options, and one whose value is the next argument. -/
  | awaiting (options : List (String × String)) (name spelling : String)
  deriving Repr, DecidableEq

/-- Reads the letters of short options. -/
def readLetters (specs : List OptionSpec) : Text → Except UsageFault Reading
  | [] => .ok (.complete [])
  | letter :: rest =>
    let spelling := String.ofList ['-', letter]
    match spec? specs spelling with
    | none => .error (.unknownOption spelling)
    | some spec =>
      let name := OptionSpec.name spec
      if spec.takesValue then
        if rest.isEmpty then .ok (.awaiting [] name spelling)
        else .ok (.complete [(name, String.ofList rest)])
      else do
        match ← readLetters specs rest with
        | .complete options => return .complete ((name, "") :: options)
        | .awaiting options last lastSpelling =>
          return .awaiting ((name, "") :: options) last lastSpelling

/-- Reads an argument that starts with a hyphen. -/
def readOption (specs : List OptionSpec) (argument : String) : Except UsageFault Reading :=
  let (spelling, attached) := match Text.cut '=' argument.toList with
    | some (before, after) => (String.ofList before, some (String.ofList after))
    | none => (argument, none)
  match longSpec? specs spelling with
  | some spec =>
    let name := OptionSpec.name spec
    match spec.takesValue, attached with
    | true, some value => .ok (.complete [(name, value)])
    | true, none => .ok (.awaiting [] name spelling)
    | false, some _ => .error (.unexpectedValue spelling)
    | false, none => .ok (.complete [(name, "")])
  | none =>
    if ['-', '-'].isPrefixOf argument.toList then .error (.unknownOption spelling)
    else readLetters specs (argument.toList.drop 1)

/-- Whether an argument is read as options. -/
def isOption (argument : String) : Bool :=
  argument.toList.head? == some '-' && 1 < argument.length

/-- Reads arguments; with `interspersed`, options may follow positional arguments. -/
def read (specs : List OptionSpec) (interspersed : Bool) :
    List String → Except UsageFault Arguments
  | [] => .ok {}
  | argument :: rest =>
    if argument = "--" then .ok { positional := rest }
    else if isOption argument then do
      match ← readOption specs argument with
      | .complete options =>
        let more ← read specs interspersed rest
        return { more with options := options ++ more.options }
      | .awaiting options name spelling =>
        match rest with
        | [] => throw (.missingValue spelling)
        | value :: rest =>
          let more ← read specs interspersed rest
          return { more with options := options ++ (name, value) :: more.options }
    else if interspersed then withPositional argument <$> read specs interspersed rest
    else .ok { positional := argument :: rest }

end Arguments

end FixLoop
