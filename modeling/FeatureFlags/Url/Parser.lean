import FeatureFlags.Url.Host

namespace FeatureFlags.Url

def usualPort? : String → Option Nat
  | "http" | "ws" => some 80
  | "https" | "wss" => some 443
  | "ftp" => some 21
  | _ => none

/-- Schemes whose addresses name a host and a path. -/
def isSpecial (scheme : String) : Bool :=
  (usualPort? scheme).isSome || scheme == "file"

def isBlank (c : Char) : Bool := c ≤ ' '

def cleaned (cs : List Char) : List Char :=
  ((cs.dropWhile isBlank).reverse.dropWhile isBlank).reverse.filter fun c =>
    c != '\t' && c != '\n' && c != '\r'

def isSchemeCharacter (c : Char) : Bool :=
  c.isAlphanum || c == '+' || c == '-' || c == '.'

def takeScheme : List Char → Option (String × List Char)
  | [] => none
  | c :: cs =>
    if c.isAlpha then
      match cs.dropWhile isSchemeCharacter with
      | ':' :: rest =>
        some (String.ofList ((c :: cs.takeWhile isSchemeCharacter).map Char.toLower), rest)
      | _ => none
    else none

def splitAt (test : Char → Bool) (cs : List Char) : List Char × List Char :=
  (cs.takeWhile fun c => !test c, cs.dropWhile fun c => !test c)

def afterMark (mark : Char) : List Char → Option (List Char)
  | c :: rest => if c = mark then some rest else none
  | [] => none

def splitLast (mark : Char) (cs : List Char) : Option (List Char × List Char) :=
  match cs.reverse.dropWhile (· != mark) with
  | [] => none
  | _ :: before => some (before.reverse, cs.drop (before.length + 1))

def userinfo (cs : List Char) : String × String :=
  let (name, rest) := splitAt (· == ':') cs
  (String.ofList (Percent.encode Percent.inUserinfo name),
    String.ofList (Percent.encode Percent.inUserinfo (rest.drop 1)))

/-- Splits a host from its port, at a colon outside of brackets. -/
def splitPort (inside : Bool) : List Char → List Char × Option (List Char)
  | [] => ([], none)
  | c :: rest =>
    if c = ':' ∧ !inside then ([], some rest)
    else
      let (host, port) :=
        splitPort (if c = '[' then true else if c = ']' then false else inside) rest
      (c :: host, port)

def port? (scheme : String) : Option (List Char) → Option (Option Nat)
  | none => some none
  | some digits =>
    if digits.all Char.isDigit && Number.digitsValue digits < UInt16.size then
      let port := Number.digitsValue digits
      some (if digits.isEmpty || usualPort? scheme == some port then none else some port)
    else none

def isSlash (special : Bool) (c : Char) : Bool :=
  c == '/' || (special && c == '\\')

def isHere (segment : List Char) : Bool :=
  let s := String.ofList (segment.map Char.toLower)
  s == "." || s == "%2e"

def isBack (segment : List Char) : Bool :=
  let s := String.ofList (segment.map Char.toLower)
  s == ".." || s == ".%2e" || s == "%2e." || s == "%2e%2e"

def addSegment (before : List (List Char)) (segment : List Char) (last : Bool) :
    List (List Char) :=
  if isBack segment then if last then [] :: before.drop 1 else before.drop 1
  else if isHere segment then if last then [] :: before else before
  else Percent.encode Percent.inPath segment :: before

def resolve (before : List (List Char)) : List (List Char) → List (List Char)
  | [] => before
  | [segment] => addSegment before segment true
  | segment :: rest => resolve (addSegment before segment false) rest

/-- A path in normal form, each of its segments after a slash. -/
def normalPath (special : Bool) (cs : List Char) : String :=
  let slashed := if special then cs.map fun c => if c = '\\' then '/' else c else cs
  let segments := match slashed with
    | '/' :: rest => Text.split '/' rest
    | cs => Text.split '/' cs
  String.ofList ((resolve [] segments).reverse.flatMap ('/' :: ·))

def tail (special : Bool) (cs : List Char) : Option String × Option String :=
  let (queried, rest) := splitAt (· == '#') cs
  let escaped := if special then Percent.inSpecialQuery else Percent.inQuery
  ((afterMark '?' queried).map fun q => String.ofList (Percent.encode escaped q),
    (afterMark '#' rest).map fun f => String.ofList (Percent.encode Percent.inFragment f))

/-- An address after the slashes before its authority. -/
def afterSlashes? (scheme : String) (cs : List Char) : Option Url := do
  let special := isSpecial scheme
  let (authority, rest) :=
    splitAt (fun c => isSlash special c || c == '?' || c == '#') cs
  let (pathText, rest) := splitAt (fun c => c == '?' || c == '#') rest
  let (credentials, hostPort) := match splitLast '@' authority with
    | some (before, after) => (some before, after)
    | none => (none, authority)
  let (hostText, portText) := splitPort false hostPort
  if hostText.isEmpty && (credentials.isSome || portText.isSome ||
      (usualPort? scheme).isSome) then none
  else if scheme == "file" && (credentials.isSome || portText.isSome) then none
  else
    let host ← if hostText.isEmpty then some ""
      else if special then Host.special? hostText else Host.verbatim? hostText
    let host := if scheme == "file" && host == "localhost" then "" else host
    let port ← port? scheme portText
    let (username, password) := userinfo (credentials.getD [])
    let (query, fragment) := tail special rest
    let path := if special || !pathText.isEmpty then normalPath special pathText else ""
    some { scheme, username, password, host := some host, port, path, query, fragment }

def withoutAuthority (scheme : String) (cs : List Char) : Url :=
  let (pathText, rest) := splitAt (fun c => c == '?' || c == '#') cs
  let (query, fragment) := tail false rest
  let path := match pathText with
    | '/' :: _ => normalPath false pathText
    | _ => String.ofList (Percent.encode Percent.isControl pathText)
  { scheme, username := "", password := "", host := none, port := none, path, query, fragment }

def parse? (s : String) : Option Url := do
  let (scheme, rest) ← takeScheme (cleaned s.toList)
  if (usualPort? scheme).isSome then afterSlashes? scheme (rest.dropWhile (isSlash true))
  else if scheme == "file" then
    match rest with
    | a :: b :: after =>
      if isSlash true a && isSlash true b then afterSlashes? scheme after
      else afterSlashes? scheme ('/' :: rest.dropWhile (isSlash true))
    | _ => afterSlashes? scheme ('/' :: rest.dropWhile (isSlash true))
  else
    match rest with
    | '/' :: '/' :: after => afterSlashes? scheme after
    | _ => some (withoutAuthority scheme rest)

end FeatureFlags.Url
