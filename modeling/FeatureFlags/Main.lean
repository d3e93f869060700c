import FeatureFlags.Admin
import FeatureFlags.CommandLine.Execution
import FeatureFlags.Source
import FeatureFlags.Url.Parser
import Std.Async.DNS
import Std.Async.Signal
import Std.Async.TCP
import Std.Async.Timer
import Std.Http.Server
import Std.Time

namespace FeatureFlags.Terminal

open Std.Async

def now : IO Timestamp := do
  let nanos := (← Std.Time.Timestamp.now).toNanosecondsSinceUnixEpoch.val
  let second : Int := 1000000000
  return .ofUnix (nanos / second) (nanos % second).toNat

def attempt (act : IO α) : IO (Except String α) := do
  try return .ok (← act) catch e => return .error (toString e)

def read (path : String) : IO (Except FileError ByteArray) := do
  match ← attempt (IO.FS.Handle.mk path .read) with
  | .error reason => return .error (.closed reason)
  | .ok handle => return (← attempt handle.readBinToEnd).mapError .unreadable

def write (path : String) (bytes : ByteArray) : IO (Except String Unit) :=
  attempt (IO.FS.writeBinFile path bytes)

/-- Databases in memory are empty. For one in a file there is no reader of tables. -/
def openDatabase :
    Database.Location → IO (Except FetchError (DatabaseReader IO))
  | .memory | .temporary => return .ok (return .ok Database.empty)
  | .file path mayCreate => do
    let mode := if mayCreate then IO.FS.Mode.append else IO.FS.Mode.read
    match ← attempt (IO.FS.Handle.mk path mode) with
    | .error reason => return .error (.database reason)
    | .ok _ => return .ok (return .error (.database ("no reader for the tables of " ++ path)))

def addresses (host : String) (port : UInt16) : Async (List Std.Net.SocketAddress) := do
  let found ← match Std.Net.IPv4Addr.ofString host with
    | some a => pure #[Std.Net.IPAddr.v4 a]
    | none => DNS.getAddrInfo host (toString port)
  return found.toList.map fun
    | .v4 a => .v4 ⟨a, port⟩
    | .v6 a => .v6 ⟨a, port⟩

/-- All bytes that come before the other side ends. -/
partial def receiveAll (client : TCP.Socket.Client) (before : ByteArray) : Async ByteArray := do
  match ← client.recv? 65536 with
  | none => return before
  | some bytes => receiveAll client (before ++ bytes)

def exchange (host : String) (port : UInt16) (text : String) : Async ByteArray := do
  match ← addresses host port with
  | [] => throw (IO.userError ("no address of " ++ host))
  | first :: _ =>
    let client ← TCP.Socket.Client.mk
    client.connect first
    client.send text.toUTF8
    receiveAll client .empty

def download (u : Url) : IO (Except FetchError ByteArray) := do
  match u.scheme, u.host with
  | "http", some host =>
    let port := u.port.getD 80
    match ← attempt (exchange host (UInt16.ofNat port) (Download.request u)).block with
    | .ok answer => return Download.body u answer
    | .error reason => return .error (.http reason)
  | scheme, _ => return .error (.http ("no connection for " ++ scheme))

def await (task : Task α) : Nat → IO (Option α)
  | 0 => return if ← IO.hasFinished task then some task.get else none
  | looks + 1 => do
    if ← IO.hasFinished task then return some task.get
    else
      IO.sleep 5
      await task looks

def within (d : Duration) (fetch : IO (Except FetchError (List Flag))) : IO Fetched := do
  let task ← IO.asTask fetch .dedicated
  match ← await task (d.milliseconds / 5) with
  | some (.ok result) => return result.mapError .fetch
  | some (.error e) => return .error (.fetch (.io (toString e)))
  | none => return .error (.timeout d)

structure AdminService where
  state : IO.Ref Serving

namespace AdminService

def answer (a : AdminService) (target : String) : IO Admin.Response := do
  let cache := (← a.state.get).cache
  let route := Admin.Route.ofTarget? target
  let exportText ← if route = some .exported then
      pure (some (cache.exported (some (← now))).toJson.compact)
    else pure none
  return Admin.respond cache.ready exportText route

end AdminService

instance : Std.Http.Server.Handler AdminService where
  ResponseBody := Std.Http.Body.Full
  onRequest a request := do
    let answer ← a.answer (toString request.line.uri)
    let status := Std.Http.Status.ofCode none (UInt16.ofNat answer.status.code)
    let head := Std.Http.Response.new.status (status.getD .internalServerError)
    let typed := match Std.Http.Header.Value.ofString? answer.contentType with
      | some value => head.header .contentType value
      | none => head
    return typed.body (← Std.Http.Body.Full.ofString answer.body)

/-- Waits for an interrupt, but no longer than a number of milliseconds. -/
def interrupted (signal : Signal.Waiter) (milliseconds : Nat) : Async Bool := do
  Selectable.one #[
    .case signal.selector fun _ => return true,
    .case (← Selector.sleep (.ofNat milliseconds)) fun _ => return false]

def tick (state : IO.Ref Serving) (fetch : IO Fetched) : IO Unit := do
  state.modify Serving.tick
  if (← state.get).loop.current.isSome then
    let fetched ← fetch
    state.modify (·.finish fetched)

/-- Ticks at whole intervals after a start, missed ones left out, until an interrupt. -/
partial def keepFresh (state : IO.Ref Serving) (interval start : Nat) (fetch : IO Fetched)
    (signal : Signal.Waiter) : IO Unit := do
  let passed := (← IO.monoMsNow) - start
  if ← (interrupted signal (interval - passed % interval)).block then
    state.modify Serving.stop
  else
    tick state fetch
    keepFresh state interval start fetch signal

def serve (l : Config.Listener) (interval : Duration) (fetch : IO Fetched) (s : Serving) :
    IO (Except String Unit) :=
  attempt do
    match ← (addresses l.host l.port).block with
    | [] => throw (IO.userError ("no address of " ++ l.host))
    | address :: _ =>
      let state ← IO.mkRef s
      let signal ← Signal.Waiter.mk .sigint false
      let server ← (Std.Http.Server.serve address (AdminService.mk state)).block
      keepFresh state interval.milliseconds (← IO.monoMsNow) fetch signal
      server.shutdown.block

def print (text : String) : IO (Except String Unit) :=
  attempt do
    let out ← IO.getStdout
    out.putStr text
    out.flush

def report (text : String) : IO Unit :=
  discard (attempt (IO.eprintln text))

def surroundings : Surroundings IO where
  now
  read
  write
  openDatabase
  download
  within
  serve
  print
  report

end FeatureFlags.Terminal

def main (arguments : List String) : IO UInt32 := do
  return (← FeatureFlags.CommandLine.execute FeatureFlags.Terminal.surroundings arguments).code
