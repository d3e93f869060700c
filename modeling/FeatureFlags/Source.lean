import FeatureFlags.Flag.Record
import FeatureFlags.Url.Basic

namespace FeatureFlags

inductive FetchError where
  | io (reason : String)
  | json
  | http (reason : String)
  | status (url : String) (code : Nat)
  | database (reason : String)
  | invalidSource (reason : String)
deriving DecidableEq

namespace FetchError

def message : FetchError → String
  | io reason => "I/O error: " ++ reason
  | json => "invalid flag JSON: the text is not an export of flags"
  | http reason => "HTTP error: " ++ reason
  | status url code => url ++ " responded with " ++ toString code
  | database reason => "database error: " ++ reason
  | invalidSource reason => "invalid flag source: " ++ reason

end FetchError

namespace Export

def flagsOfText (text : String) : Except FetchError (List Flag) :=
  match read.run? text with
  | some e => .ok e.flags
  | none => .error .json

end Export

namespace Download

def target (u : Url) : String :=
  (if u.path.isEmpty then "/" else u.path) ++
    (match u.query with
      | some query => "?" ++ query
      | none => "")

def hostLine (u : Url) : String :=
  u.host.getD "" ++
    (match u.port with
      | some port => ":" ++ toString port
      | none => "")

def request (u : Url) : String :=
  "GET " ++ target u ++ " HTTP/1.0\r\nHost: " ++ hostLine u ++
    "\r\nAccept: */*\r\nConnection: close\r\n\r\n"

/-- The bytes before and after the first blank line. -/
def splitBlankLine : List UInt8 → Option (List UInt8 × List UInt8)
  | 13 :: 10 :: 13 :: 10 :: rest => some ([], rest)
  | b :: rest => (splitBlankLine rest).map fun (before, after) => (b :: before, after)
  | [] => none

def status? (head : List UInt8) : Option Nat := do
  let line ← String.fromUTF8? ⟨(head.takeWhile (· != 13)).toArray⟩
  match line.splitOn " " with
  | version :: code :: _ => if version.startsWith "HTTP/" then code.toNat? else none
  | _ => none

/-- The body of an answer whose status tells of success. -/
def body (u : Url) (answer : ByteArray) : Except FetchError ByteArray :=
  match splitBlankLine answer.data.toList with
  | none => .error (.http "the answer ends within its head")
  | some (head, body) =>
    match status? head with
    | none => .error (.http "the answer has no status")
    | some code =>
      if 200 ≤ code && code < 300 then .ok ⟨body.toArray⟩ else .error (.status u.text code)

end Download

end FeatureFlags
