namespace FeatureFlags.Admin

inductive Route where
  | health
  | ready
  | exported
deriving DecidableEq

inductive Status where
  | ok
  | notFound
  | internalServerError
  | serviceUnavailable
deriving DecidableEq

namespace Status

def code : Status → Nat
  | ok => 200
  | notFound => 404
  | internalServerError => 500
  | serviceUnavailable => 503

def reason : Status → String
  | ok => "OK"
  | notFound => "Not Found"
  | internalServerError => "Internal Server Error"
  | serviceUnavailable => "Service Unavailable"

end Status

structure Response where
  status : Status
  contentType : String
  body : String
deriving DecidableEq

namespace Route

def path : Route → String
  | health => "/health"
  | ready => "/ready"
  | exported => "/export/eval_cache/json"

def all : List Route :=
  [health, ready, exported]

def ofPath? (path : List Char) : Option Route :=
  all.find? fun route => route.path.toList == path

end Route

def endsAuthority (c : Char) : Bool :=
  c == '/' || c == '?' || c == '#'

def withoutQuery (cs : List Char) : List Char :=
  cs.takeWhile fun c => c != '?' && c != '#'

def afterScheme? : List Char → Option (List Char)
  | ':' :: '/' :: '/' :: rest => some rest
  | c :: rest =>
    if c.isAlphanum || c == '+' || c == '-' || c == '.' then afterScheme? rest else none
  | [] => none

/-- The path of the target of a request: a path itself, or that of an absolute address,
where an empty one is the root. An authority alone has no path. -/
def pathOf (target : List Char) : List Char :=
  match target with
  | '/' :: _ => withoutQuery target
  | ['*'] => target
  | _ =>
    match afterScheme? target with
    | none => []
    | some rest =>
      match withoutQuery (rest.dropWhile fun c => !endsAuthority c) with
      | [] => ['/']
      | path => path

def Route.ofTarget? (target : String) : Option Route :=
  ofPath? (pathOf target.toList)

def Response.plain (status : Status) (text : String) : Response :=
  ⟨status, "text/plain", text ++ "\n"⟩

def Response.success : Response :=
  .plain .ok "ok"

def Response.failure (status : Status) : Response :=
  .plain status status.reason

def respond (isReady : Bool) (exportText : Option String) : Option Route → Response
  | some .health => .success
  | some .ready => if isReady then .success else .failure .serviceUnavailable
  | some .exported =>
    match exportText with
    | some text => ⟨.ok, "application/json", text⟩
    | none => .failure .internalServerError
  | none => .failure .notFound

end FeatureFlags.Admin
