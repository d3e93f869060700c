import FeatureFlags.CommandLine.Option

namespace FeatureFlags.CommandLine

abbrev Entry := String × String

def table (entries : List Entry) : List String :=
  let width := (entries.map fun e => e.1.length).foldl max 0
  entries.map fun (name, description) =>
    "  " ++ name ++ "".pushn ' ' (width - name.length + 2) ++ description

def Parameter.placeholder? : Parameter → Option String
  | nothing => none
  | text placeholder | path placeholder => some placeholder

namespace OptionRule

def longForm (o : OptionRule) : String :=
  "--" ++ o.name ++
    (match o.parameter.placeholder? with
      | some placeholder => " <" ++ placeholder ++ ">"
      | none => "")

def entry (o : OptionRule) : Entry :=
  ((match o.letter with
    | some letter => "-" ++ letter.toString ++ ", "
    | none => "    ") ++ o.longForm, o.description)

def help : OptionRule :=
  ⟨"help", some 'h', .nothing, false, "Print help"⟩

end OptionRule

def lines (texts : List String) : String :=
  String.join (texts.map (· ++ "\n"))

namespace CommandRule

def usage (program : String) (c : CommandRule) : String :=
  String.intercalate " " (["Usage:", program, c.name] ++
    (if c.options.all (·.isRequired) then [] else ["[OPTIONS]"]) ++
    (c.options.filter (·.isRequired)).map OptionRule.longForm)

def helpText (program : String) (c : CommandRule) : String :=
  lines ([c.description, "", c.usage program, "", "Options:"] ++
    table ((c.options ++ [OptionRule.help]).map OptionRule.entry))

end CommandRule

structure ProgramRule where
  name : String
  description : String
  commands : List CommandRule

namespace ProgramRule

def helpCommand : Entry :=
  ("help", "Print this message or the help of the given subcommand(s)")

def helpText (p : ProgramRule) : String :=
  lines ([p.description, "", "Usage: " ++ p.name ++ " <COMMAND>", "", "Commands:"] ++
    table (p.commands.map (fun c => (c.name, c.description)) ++ [helpCommand]) ++
    ["", "Options:"] ++ table [("-h, --help", OptionRule.help.description)])

def helpOfHelp (p : ProgramRule) : String :=
  lines ([helpCommand.2, "", "Usage: " ++ p.name ++ " help [COMMAND]...", "", "Arguments:"] ++
    table [("[COMMAND]...", "Print help for the subcommand(s)")])

end ProgramRule

end FeatureFlags.CommandLine
