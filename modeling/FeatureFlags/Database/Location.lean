import FeatureFlags.Source
import FeatureFlags.Text.Class
import FeatureFlags.Url.Basic

namespace FeatureFlags.Database

inductive Location where
  | memory
  /-- A file that is gone when it is closed. -/
  | temporary
  /-- A file, and whether it is created when there is none. -/
  | file (path : String) (mayCreate : Bool)
deriving DecidableEq

namespace Location

def trimStart (front : List Char) (cs : List Char) : List Char :=
  let rest := cs.drop front.length
  if _h : front.isPrefixOf cs ∧ rest.length < cs.length then trimStart front rest else cs
termination_by cs.length
decreasing_by exact _h.2

def unescape? (cs : List Char) : Option String :=
  String.fromUTF8? ⟨(Percent.decode cs).toArray⟩

def parameter (cs : List Char) : Option (String × String) := do
  let blanks := cs.map fun c => if c == '+' then ' ' else c
  let name ← unescape? (blanks.takeWhile (· != '='))
  let value ← unescape? ((blanks.dropWhile (· != '=')).drop 1)
  some (name, value)

def parameters (cs : List Char) : List (Option (String × String)) :=
  ((cs.splitOn '&').filter (!·.isEmpty)).map parameter

def refine (l : Location) : Option (String × String) → Option Location
  | some ("mode", "ro") => some l
  | some ("mode", "rw") => some l
  | some ("mode", "memory") => some .memory
  | some ("mode", "rwc") =>
    match l with
    | .file path _ => some (.file path true)
    | _ => some l
  | some ("cache", value) => if value == "private" || value == "shared" then some l else none
  | some ("immutable", value) =>
    if ["true", "1", "false", "0"].contains value then some l else none
  | some ("vfs", value) => if value.startsWith "unix" then some l else none
  | _ => none

def ofPath? (path : List Char) : Option Location :=
  if path == ":memory:".toList then some .memory
  else (unescape? path).map fun name => if name.isEmpty then .temporary else .file name false

def ofAddress? (cs : List Char) : Option Location := do
  let rest := trimStart ['/', '/'] (trimStart "sqlite:".toList cs)
  let start ← ofPath? (rest.takeWhile (· != '?'))
  (parameters ((rest.dropWhile (· != '?')).drop 1)).foldlM refine start

def ofUrl (url : String) : Except FetchError Location :=
  if "sqlite:".toList.isPrefixOf url.toList then
    match ofAddress? url.toList with
    | some location => .ok location
    | none => .error (.database ("unusable address " ++ Text.quote url))
  else .error (.invalidSource (Text.quote url ++ " is not a sqlite database url"))

end Location

end FeatureFlags.Database
