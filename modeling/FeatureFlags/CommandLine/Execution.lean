import FeatureFlags.CommandLine.Invocation
import FeatureFlags.Pattern.Machine
import FeatureFlags.Startup

namespace FeatureFlags.CommandLine

inductive ExitStatus where
  | success
  | failure
  | misuse
deriving DecidableEq

def ExitStatus.code : ExitStatus → UInt32
  | success => 0
  | failure => 1
  | misuse => 2

inductive Failure where
  | startup (e : StartupError)
  | io (reason : String)
  | attributes
  | evaluation (e : EvalError)

def Failure.message : Failure → String
  | startup e => e.message
  | io reason => "I/O error: " ++ reason
  | attributes => "invalid JSON: the context is not an object"
  | evaluation e => e.message

def Question.context? (q : Question) : Option Context := do
  let attributes ← match q.attributes with
    | none => some []
    | some text => Document.Reader.attributes.run? text
  let c : Context := { Context.ofEntity q.entityId with
    entityType := q.entityType.getD ""
    attributes
    debug := q.debug }
  match FlagRef.parse q.flag with
  | .id id => some { c with flagId := some id }
  | .key key => some { c with flagKey := some key }

def printed (j : Json) : String :=
  j.indented ++ "\n"

variable {m : Type → Type} [Monad m]

def print (s : Surroundings m) (text : String) : m (Except Failure Unit) := do
  return (← s.print text).mapError .io

def exportFlags (s : Surroundings m) (c : Config) (output : Option String) :
    m (Except Failure Unit) := do
  match ← c.cache.build s with
  | .error e => return .error (.startup e)
  | .ok (cache, _) =>
    let text := printed (cache.exported (some (← s.now))).toJson
    match output with
    | none => print s text
    | some path => return (← s.write path text.toUTF8).mapError .io

def evaluate (s : Surroundings m) (c : Config) (q : Question) : m (Except Failure Unit) := do
  match q.context? with
  | none => return .error .attributes
  | some context =>
    match ← c.cache.build s with
    | .error e => return .error (.startup e)
    | .ok (cache, _) =>
      match (cache.evaluate context).2 with
      | .error e => return .error (.evaluation e)
      | .ok result => print s (printed (result.toJson (some (← s.now))))

def serve (s : Surroundings m) (c : Config) : m (Except Failure Unit) := do
  match ← c.cache.build s with
  | .error e => return .error (.startup e)
  | .ok (cache, fetch) =>
    return (← s.serve c.listener (.ofSeconds c.cache.refreshIntervalSeconds) fetch
      ⟨cache, .start⟩).mapError .io

def Task.perform (s : Surroundings m) (c : Config) : Task → m (Except Failure Unit)
  | serve => CommandLine.serve s c
  | exportFlags output => CommandLine.exportFlags s c output
  | evaluate q => CommandLine.evaluate s c q

def Invocation.perform (s : Surroundings m) (i : Invocation) : m ExitStatus := do
  match ← Config.load s i.config with
  | .error e =>
    s.report (i.config ++ ": " ++ e.message)
    return .failure
  | .ok c =>
    match ← i.task.perform s c with
    | .ok () => return .success
    | .error e =>
      s.report e.message
      return .failure

def execute (s : Surroundings m) (arguments : List String) : m ExitStatus := do
  match Reading.ofArguments arguments with
  | .invocation i => i.perform s
  | .help text =>
    let _ ← s.print text
    return .success
  | .misuse e =>
    s.report e.message
    return .misuse

end FeatureFlags.CommandLine
