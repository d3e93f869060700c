import FeatureFlags.CommandLine.Help
import FeatureFlags.Flag.Basic

namespace FeatureFlags.CommandLine

structure Question where
  flag : String
  entityId : String
  entityType : Option String
  attributes : Option String
  debug : Bool
deriving DecidableEq

inductive Task where
  | serve
  | exportFlags (output : Option String)
  | evaluate (q : Question)
deriving DecidableEq

structure Invocation where
  config : String
  task : Task
deriving DecidableEq

inductive Reading where
  | invocation (i : Invocation)
  | help (text : String)
  | misuse (e : UsageError)
deriving DecidableEq

def configOption : OptionRule :=
  ⟨"config", some 'c', .path "CONFIG", true, ""⟩

def runCommand : CommandRule where
  name := "run"
  description := "Serve the admin listener and keep the evaluation cache refreshed"
  options := [configOption]

def exportCommand : CommandRule where
  name := "export"
  description := "Load the flags once and write them in the json_file source format"
  options := [configOption,
    ⟨"output", some 'o', .path "OUTPUT", false, "Defaults to stdout"⟩]

def evalCommand : CommandRule where
  name := "eval"
  description := "Load the flags once and evaluate a single flag for one entity"
  options := [configOption,
    ⟨"flag", none, .text "FLAG", true, "Flag id or key"⟩,
    ⟨"entity-id", none, .text "ENTITY_ID", true, ""⟩,
    ⟨"entity-type", none, .text "ENTITY_TYPE", false, ""⟩,
    ⟨"context", none, .text "CONTEXT", false, "Entity context as a JSON object"⟩,
    ⟨"debug", none, .nothing, false, ""⟩]

def program : ProgramRule where
  name := "flagr"
  description := "Feature flag evaluation service"
  commands := [runCommand, exportCommand, evalCommand]

def Task.ofGiven? (name : String) (g : Given) : Option Task :=
  if name = runCommand.name then some .serve
  else if name = exportCommand.name then some (.exportFlags (g.value? "output"))
  else do
    let flag ← g.value? "flag"
    let entityId ← g.value? "entity-id"
    some (.evaluate ⟨flag, entityId, g.value? "entity-type", g.value? "context",
      (g.value? "debug").isSome⟩)

def CommandRule.invocation (c : CommandRule) (arguments : List String) : Reading :=
  match c.read arguments with
  | .error .help => .help (c.helpText program.name)
  | .error (.misuse e) => .misuse e
  | .ok g =>
    match g.value? configOption.name, Task.ofGiven? c.name g with
    | some config, some task => .invocation ⟨config, task⟩
    | _, _ => .misuse (.missingOption configOption.name)

def explain : List String → Reading
  | [] => .help program.helpText
  | [name] =>
    if name = ProgramRule.helpCommand.1 then .help program.helpOfHelp
    else
      match program.commands.find? (·.name == name) with
      | some c => .help (c.helpText program.name)
      | none => .misuse (.unknownCommand name)
  | name :: next :: _ =>
    .misuse (.unknownCommand
      (if (program.commands.map CommandRule.name).contains name then next else name))

def frontRule : CommandRule where
  name := program.name
  description := program.description
  options := []

def Reading.ofArguments : List String → Reading
  | [] => .misuse .missingCommand
  | first :: rest =>
    if first = ProgramRule.helpCommand.1 then explain rest
    else
      match program.commands.find? (·.name == first) with
      | some c => c.invocation rest
      | none =>
        match Progress.take frontRule .start first with
        | .error .help => .help program.helpText
        | .error (.misuse (.unexpectedArgument name)) => .misuse (.unknownCommand name)
        | .error (.misuse e) => .misuse e
        | .ok _ => .misuse .missingCommand

end FeatureFlags.CommandLine
