import FeatureFlags.Config.Cache

namespace FeatureFlags

open Document (Reader)

namespace Config

structure MetricsTarget where
  host : String
  port : UInt16
deriving DecidableEq

structure Listener where
  host : String
  port : UInt16
deriving DecidableEq

end Config

structure Config where
  sentryDsn : Option String
  metrics : Option Config.MetricsTarget
  listener : Config.Listener
  cache : CacheConfig
deriving DecidableEq

namespace Config

inductive Error where
  | load (reason : String)
  | parse
  | invalid (reason : String)
deriving DecidableEq

def Error.message : Error → String
  | load reason => "could not load config from file: " ++ reason
  | parse => "could not parse config: the text is not a configuration"
  | invalid reason => "invalid config: " ++ reason

/-- A natural number below a bound, or a zero with a sign. -/
def count (bound : Nat) : Reader Nat
  | _, .number ⟨true, ['0'], [], none⟩ => some 0
  | room, d => Reader.natBelow bound room d

def port : Reader UInt16 :=
  fun room d => (count UInt16.size room d).map UInt16.ofNat

def spelling : Validation.Spelling :=
  ⟨.name Validation.Operation.ofName?, count⟩

def MetricsTarget.read : Reader MetricsTarget :=
  .record ["statsd_host", "statsd_port"] fun f => do
    let host ← f.required "statsd_host" .scalarText
    let port ← f.withDefault "statsd_port" Config.port 8125
    some { host, port }

namespace Listener

def default : Listener :=
  ⟨"127.0.0.1", 18001⟩

def read : Reader Listener :=
  .record ["host", "port"] fun f => do
    let host ← f.required "host" .scalarText
    let port ← f.required "port" Config.port
    some { host, port }

def validate (l : Listener) : Except Error Unit :=
  if l.host.isEmpty then .error (.invalid "admin_listener.host is empty")
  else if l.port = 0 then .error (.invalid "admin_listener.port must not be 0")
  else .ok ()

end Listener

def readLogging : Reader (Option String) :=
  .record ["sentry_dsn"] fun f => f.optional "sentry_dsn" .scalarText

def fields : List String :=
  ["logging", "metrics", "admin_listener", "eval_cache"]

def read : Reader Config :=
  .record fields fun f => do
    let logging ← f.optional "logging" readLogging
    let metrics ← f.optional "metrics" MetricsTarget.read
    let listener ← f.withDefault "admin_listener" Listener.read Listener.default
    let cache ← f.required "eval_cache" (CacheConfig.reader spelling)
    some { sentryDsn := logging.join.filter (!·.isEmpty), metrics, listener, cache }

def isAllowed (c : Char) : Bool :=
  let n := c.toNat
  n == 0x09 || n == 0x0A || n == 0x0D || (0x20 ≤ n && n ≤ 0x7E) || n == 0x85 ||
    (0xA0 ≤ n && n ≤ 0xFFFD) || 0x10000 ≤ n

/-- Whether no escape is one half of a character. -/
def noSurrogates : List Char → Bool
  | '\\' :: 'u' :: d :: e :: rest =>
    !((d == 'd' || d == 'D') && ('8' ≤ e && e ≤ '9' || 'a' ≤ e.toLower && e.toLower ≤ 'f')) &&
      noSurrogates rest
  | '\\' :: _ :: rest => noSurrogates rest
  | _ :: rest => noSurrogates rest
  | [] => true

def parse? (text : String) : Option Config :=
  if text.toList.all isAllowed && noSurrogates text.toList then read.run? text else none

def validate (c : Config) : Except Error Unit :=
  match c.listener.validate with
  | .error e => .error e
  | .ok () =>
    match c.cache.validate with
    | .error e => .error (.invalid e.message)
    | .ok () => .ok ()

def ofBytes (bytes : ByteArray) : Except Error Config :=
  match (String.fromUTF8? bytes).bind parse? with
  | none => .error .parse
  | some c =>
    match c.validate with
    | .error e => .error e
    | .ok () => .ok c

end Config

end FeatureFlags
