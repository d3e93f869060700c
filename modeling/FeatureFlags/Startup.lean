import FeatureFlags.Cache.Loop
import FeatureFlags.Config.Basic
import FeatureFlags.Database.Location
import FeatureFlags.Database.Stitching

/-!
Starting up: a checked configuration gives a validator, a source and a loaded cache.
-/

namespace FeatureFlags

inductive FileError where
  | closed (reason : String)
  | unreadable (reason : String)
deriving DecidableEq

def FileError.message : FileError → String
  | closed reason | unreadable reason => reason

abbrev DatabaseReader (m : Type → Type) := m (Except FetchError Database)

structure Surroundings (m : Type → Type) where
  now : m Timestamp
  read : String → m (Except FileError ByteArray)
  write : String → ByteArray → m (Except String Unit)
  openDatabase : Database.Location → m (Except FetchError (DatabaseReader m))
  download : Url → m (Except FetchError ByteArray)
  /-- Waits for a fetch, but no longer than a given time. -/
  within : Duration → m (Except FetchError (List Flag)) → m Fetched
  /-- Answers requests for a cache and lets its loop fetch after each interval, until it
  is told to end. -/
  serve : Config.Listener → Duration → m Fetched → Serving → m (Except String Unit)
  print : String → m (Except String Unit)
  report : String → m Unit

/-- A source that is ready to be asked. -/
structure Fetcher (m : Type → Type) where
  name : String
  fetch : m (Except FetchError (List Flag))

def Export.flagsOfBytes (bytes : ByteArray) : Except FetchError (List Flag) :=
  match String.fromUTF8? bytes with
  | some text => flagsOfText text
  | none => .error .json

namespace Fetcher

variable {m : Type → Type} [Monad m]

def ofFile (s : Surroundings m) (path : String) : Fetcher m where
  name := (FlagSource.jsonFile path).typeName
  fetch := do
    match ← s.read path with
    | .ok bytes => return Export.flagsOfBytes bytes
    | .error e => return .error (.io e.message)

def ofUrl (s : Surroundings m) (url : Url) : Fetcher m where
  name := (FlagSource.jsonHttp url).typeName
  fetch := do return (← s.download url).bind Export.flagsOfBytes

def ofDatabase (url : String) (read : DatabaseReader m) : Fetcher m where
  name := (FlagSource.database url).typeName
  fetch := do return (← read).bind Database.fetch

/-- Opens a source. Files and addresses are not touched before the first fetch, a
database is opened at once. -/
def ofSource (s : Surroundings m) : FlagSource → m (Except FetchError (Fetcher m))
  | .jsonFile path => return .ok (ofFile s path)
  | .jsonHttp url => return .ok (ofUrl s url)
  | .database url => do
    match Database.Location.ofUrl url with
    | .error e => return .error e
    | .ok location => return (← s.openDatabase location).map (ofDatabase url)

end Fetcher

inductive StartupError where
  | invalidConfig (e : CacheConfigError)
  | validation (e : Validation.Error)
  | source (e : FetchError)
  | initialLoad (e : CacheError)

def StartupError.message : StartupError → String
  | invalidConfig e => "invalid eval_cache config: " ++ e.message
  | validation e => "invalid enabled flag validation: " ++ e.message
  | source e => "could not create flag source: " ++ e.message
  | initialLoad e => "initial evaluation cache load failed: " ++ e.message

namespace CacheConfig

variable [PatternEngine]

def validator (c : CacheConfig) : Except Validation.Error (Option Validator) :=
  match c.validation with
  | none => .ok none
  | some rules => (Validator.ofConfig rules).map some

variable {m : Type → Type} [Monad m]

/-- Loads a cache from a source, and keeps how to fetch from it again. -/
def load (s : Surroundings m) (c : CacheConfig) (validator : Option Validator)
    (fetcher : Fetcher m) : m (Except StartupError (Cache × m Fetched)) := do
  let fetch := s.within c.timeout fetcher.fetch
  match Cache.load validator (← fetch) with
  | (_, .error e) => return .error (.initialLoad e)
  | (cache, .ok _) => return .ok (cache, fetch)

/-- Checks the configuration, compiles its rules, opens its source and loads a cache. The
first of these that fails is the error. -/
def build (s : Surroundings m) (c : CacheConfig) :
    m (Except StartupError (Cache × m Fetched)) := do
  match c.validate, c.validator with
  | .error e, _ => return .error (.invalidConfig e)
  | .ok (), .error e => return .error (.validation e)
  | .ok (), .ok validator =>
    match ← Fetcher.ofSource s c.source with
    | .error e => return .error (.source e)
    | .ok fetcher => c.load s validator fetcher

end CacheConfig

namespace Config

variable {m : Type → Type} [Monad m]

/-- The configuration in a file. A file that can be opened and not read has no
configuration. -/
def load (s : Surroundings m) (path : String) : m (Except Config.Error Config) := do
  match ← s.read path with
  | .ok bytes => return ofBytes bytes
  | .error (.closed reason) => return .error (.load reason)
  | .error (.unreadable _) => return .error .parse

end Config

end FeatureFlags
