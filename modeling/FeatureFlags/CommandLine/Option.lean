/-!
Options of commands: `--name value`, `--name=value`, and letters as `-n value`, `-nvalue`
or `-n=value`. A value that begins with a dash needs a form in one word.
-/

namespace FeatureFlags.CommandLine

inductive Parameter where
  | nothing
  | text (placeholder : String)
  /-- A path is not empty. -/
  | path (placeholder : String)
deriving DecidableEq

structure OptionRule where
  name : String
  letter : Option Char
  parameter : Parameter
  isRequired : Bool
  description : String
deriving DecidableEq

/-- A command with its options. Every command also has the option `help`. -/
structure CommandRule where
  name : String
  description : String
  options : List OptionRule
deriving DecidableEq

inductive UsageError where
  | missingCommand
  | unknownCommand (name : String)
  | unknownOption (text : String)
  | unexpectedArgument (text : String)
  | missingValue (name : String)
  | unexpectedValue (name : String)
  | repeatedOption (name : String)
  | missingOption (name : String)
deriving DecidableEq

def UsageError.message : UsageError → String
  | missingCommand => "a command is required"
  | unknownCommand name => "unknown command " ++ name
  | unknownOption text => "unknown option " ++ text
  | unexpectedArgument text => "unexpected argument " ++ text
  | missingValue name => "--" ++ name ++ " needs a value"
  | unexpectedValue name => "--" ++ name ++ " takes no value"
  | repeatedOption name => "--" ++ name ++ " is given more than once"
  | missingOption name => "--" ++ name ++ " is required"

inductive Stop where
  | help
  | misuse (e : UsageError)
deriving DecidableEq

abbrev Given := List (String × String)

structure Progress where
  given : Given
  waiting : Option OptionRule
  ended : Bool
deriving DecidableEq

namespace Progress

def start : Progress :=
  ⟨[], none, false⟩

def give (p : Progress) (o : OptionRule) (value : String) : Except Stop Progress :=
  if p.given.any (·.1 == o.name) then .error (.misuse (.repeatedOption o.name))
  else
    match o.parameter with
    | .path _ =>
      if value.isEmpty then .error (.misuse (.missingValue o.name))
      else .ok { p with given := p.given ++ [(o.name, value)], waiting := none }
    | _ => .ok { p with given := p.given ++ [(o.name, value)], waiting := none }

def takeName (p : Progress) (c : CommandRule) (name : String) (value : Option String) :
    Except Stop Progress :=
  if name = "help" then
    .error (if value.isSome then .misuse (.unexpectedValue name) else .help)
  else
    match c.options.find? (·.name == name) with
    | none => .error (.misuse (.unknownOption ("--" ++ name)))
    | some o =>
      match o.parameter, value with
      | .nothing, none => p.give o ""
      | .nothing, some _ => .error (.misuse (.unexpectedValue name))
      | _, some value => p.give o value
      | _, none => .ok { p with waiting := some o }

def takeLetters (p : Progress) (c : CommandRule) : List Char → Except Stop Progress
  | [] => .ok p
  | letter :: rest =>
    if letter = 'h' then .error .help
    else
      match c.options.find? (·.letter == some letter) with
      | none => .error (.misuse (.unknownOption (String.ofList ['-', letter])))
      | some o =>
        match o.parameter, rest with
        | .nothing, _ => (p.give o "").bind fun p => takeLetters p c rest
        | _, [] => .ok { p with waiting := some o }
        | _, '=' :: value => p.give o (String.ofList value)
        | _, value => p.give o (String.ofList value)

def takeOption (p : Progress) (c : CommandRule) : List Char → Except Stop Progress
  | ['-'] => .ok { p with ended := true }
  | '-' :: word =>
    match word.dropWhile (· != '=') with
    | [] => p.takeName c (String.ofList word) none
    | _ :: value =>
      p.takeName c (String.ofList (word.takeWhile (· != '='))) (some (String.ofList value))
  | letters => p.takeLetters c letters

/-- Takes the next argument. A dash alone is a value. -/
def take (c : CommandRule) (p : Progress) (argument : String) : Except Stop Progress :=
  if p.ended then .error (.misuse (.unexpectedArgument argument))
  else
    match argument.toList, p.waiting with
    | '-' :: d :: rest, none => p.takeOption c (d :: rest)
    | '-' :: _ :: _, some o => .error (.misuse (.missingValue o.name))
    | _, some o => p.give o argument
    | _, none => .error (.misuse (.unexpectedArgument argument))

def finish (c : CommandRule) (p : Progress) : Except Stop Given :=
  match p.waiting with
  | some o => .error (.misuse (.missingValue o.name))
  | none =>
    match c.options.find? fun o => o.isRequired && !p.given.any (·.1 == o.name) with
    | some o => .error (.misuse (.missingOption o.name))
    | none => .ok p.given

end Progress

def CommandRule.read (c : CommandRule) (arguments : List String) : Except Stop Given :=
  match arguments.foldlM (Progress.take c) .start with
  | .error stop => .error stop
  | .ok p => p.finish c

def Given.value? (g : Given) (name : String) : Option String :=
  (g.find? (·.1 == name)).map (·.2)

end FeatureFlags.CommandLine
