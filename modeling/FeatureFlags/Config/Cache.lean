import FeatureFlags.Timestamp.Basic
import FeatureFlags.Url.Parser
import FeatureFlags.Validation

namespace FeatureFlags

open Document (Reader)

inductive FlagSource where
  | database (url : String)
  | jsonFile (path : String)
  | jsonHttp (url : Url)
deriving DecidableEq

namespace FlagSource

def typeName : FlagSource → String
  | database _ => "db"
  | jsonFile _ => "json_file"
  | jsonHttp _ => "json_http"

def readUrl : Reader Url :=
  fun room d => (Reader.text room d).bind Url.parse?

def readerOf? : String → Option (Reader FlagSource)
  | "db" => some (.record ["url"] fun f => (f.required "url" .text).map database)
  | "json_file" => some (.record ["path"] fun f => (f.required "path" .text).map jsonFile)
  | "json_http" => some (.record ["url"] fun f => (f.required "url" readUrl).map jsonHttp)
  | _ => none

def read : Reader FlagSource :=
  .tagged "type" readerOf?

end FlagSource

structure CacheConfig where
  refreshIntervalSeconds : Nat
  refreshTimeoutSeconds : Nat
  source : FlagSource
  validation : Option Validation.Config
deriving DecidableEq

inductive CacheConfigError where
  | zeroRefreshInterval
  | zeroRefreshTimeout
deriving DecidableEq

def CacheConfigError.message : CacheConfigError → String
  | zeroRefreshInterval => "eval_cache.refresh_interval_secs must be greater than 0"
  | zeroRefreshTimeout => "eval_cache.refresh_timeout_secs must be greater than 0"

namespace CacheConfig

def validate (c : CacheConfig) : Except CacheConfigError Unit :=
  if c.refreshIntervalSeconds = 0 then .error .zeroRefreshInterval
  else if c.refreshTimeoutSeconds = 0 then .error .zeroRefreshTimeout
  else .ok ()

def timeout (c : CacheConfig) : Duration :=
  .ofSeconds c.refreshTimeoutSeconds

def fields : List String :=
  ["refresh_interval_secs", "refresh_timeout_secs", "source", "enabled_flag_validation"]

def reader (s : Validation.Spelling) : Reader CacheConfig :=
  .record fields fun f => do
    let refreshIntervalSeconds ← f.withDefault "refresh_interval_secs" (s.count UInt64.size) 3
    let refreshTimeoutSeconds ← f.withDefault "refresh_timeout_secs" (s.count UInt64.size) 59
    let source ← f.required "source" FlagSource.read
    let validation ← f.optional "enabled_flag_validation" (Validation.Config.reader s)
    some { refreshIntervalSeconds, refreshTimeoutSeconds, source, validation }

def read : Reader CacheConfig :=
  reader .json

end CacheConfig

end FeatureFlags
