import Std.Http.Server
import ClusterWatch.Net.Wire
import ClusterWatch.Program
import ClusterWatch.Service

namespace ClusterWatch.Program

open Std.Async

def noText : String := "\uFFFD"

/-- Adds what is at a place. What can be opened but not read is a folder. -/
def glance (disk : Disk) (p : Place) : IO Disk := do
  try
    let bytes ← IO.FS.readBinFile p.text
    return disk.write p ((String.fromUTF8? bytes).getD noText)
  catch
    | .inappropriateType .. => return { disk with folders := p :: disk.folders }
    | _ => return disk

def follow (disk : Disk) (p : Place) : IO Disk :=
  (List.range (p.length + 1)).foldlM (fun disk n => glance disk (p.take n)) disk

def carryOut (before after : Disk) : IO Unit := do
  for p in after.folders do
    if before.look p ≠ .folder then IO.FS.createDirAll p.text
  for (p, content) in after.files do
    if before.look p ≠ .file content then IO.FS.writeFile p.text content

def addressOf (host : String) (port : Nat) : Async Std.Net.SocketAddress := do
  let addresses ← DNS.getAddrInfo host (toString port)
  match addresses.toList with
  | .v4 addr :: _ => return .v4 ⟨addr, port.toUInt16⟩
  | .v6 addr :: _ => return .v6 ⟨addr, port.toUInt16⟩
  | [] => throw (.userError "no such host")

partial def receive (client : TCP.Socket.Client) (bytes : ByteArray) : Async ByteArray := do
  match ← client.recv? 65536 with
  | some more => receive client (bytes ++ more)
  | none => return bytes

def send (r : Net.Request) : Async (Option Net.Response) := do
  let some authority := r.url.authority | return none
  if r.url.scheme ≠ "http" then return none
  try
    let client ← TCP.Socket.Client.mk
    client.connect (← addressOf authority.host (authority.port.getD 80))
    client.send r.wire.toUTF8
    return (String.fromUTF8? (← receive client .empty)).bind Net.Response.ofWire?
  catch _ => return none

/-- Finds out what a computation is answered: it is begun anew with each answer that has come, until it sends nothing
that has not been answered. -/
partial def settle (sent : Net.Web → List Net.Request) (web : Net.Web) (known : List Net.Request) :
    Async Net.Web := do
  match (sent web).find? fun r => !known.contains r with
  | none => return web
  | some r =>
    let response ← send r
    settle sent (fun q => if q = r then response else web q) (r :: known)

def unanswered : Net.Web := fun _ => none

def clock : IO (Duration → Instant) := do
  let now ← Std.Time.Timestamp.now
  return fun t => .ofNanos (Int64.ofInt (now.toNanosecondsSinceUnixEpoch.val + t.nanos))

def freshIds : IO (Nat → Uuid) := do
  let space := Uuid.ofBytes (← IO.getRandomBytes 16).toList
  return fun n => .ofName space (toString n)

def pass (service : Std.Mutex Service) (run : Service → Net.Web → List Net.Request × Service) :
    Async Unit := do
  let before ← service.atomically get
  let web ← settle (fun web => (run before web).1) unanswered []
  service.atomically do
    let s ← get
    let (_, after) := run s web
    carryOut s.disk after.disk
    set after

def snapshotPass (service : Std.Mutex Service) : Async Unit := do
  let clock ← clock
  pass service fun s web =>
    match s.snapshotPass web clock with
    | (sent, .ok (_, after)) => (sent, after)
    | (sent, .error _) => (sent, s)

def removalPass (service : Std.Mutex Service) (retention : Option Int) : Async Unit := do
  let now := (← clock) 0
  pass service fun s _ => ([], s.removalPass now retention)

partial def repeatPass (interval : Duration) (act : Async Unit) (start k : Nat) : Async Unit := do
  let due := start + k * (interval.nanos / 1000000)
  sleep (.ofNat (due - (← IO.monoMsNow)))
  act
  repeatPass interval act start (k + 1)

def fileOf (s : Service) (path : String) : Place :=
  .ofPath s.around.here s.settings.staticDir ++ (Api.Files.place? path).getD [] ++ [Api.Files.index]

def respond (service : Std.Mutex Service) (r : Std.Http.Request Std.Http.Body.Stream) :
    ContextAsync (Std.Http.Response Std.Http.Body.Any) := do
  let body : String ← r.body.readAll
  let (path, query) := Api.Request.splitTarget (toString r.line.uri)
  let request : Api.Request := {
    method := toString r.line.method
    path, query, body
    headers := r.line.headers.toList.map fun (name, value) => (name.value, value.value) }
  let s ← service.atomically get
  let disk ← follow {} (fileOf s path)
  let s := { s with around := { s.around with disk } }
  let now := (← clock) 0
  let web ← settle (fun web => (s.handle web now request).1) unanswered []
  match (s.handle web now request).2 with
  | none => throw (.userError "the work on a request has crashed")
  | some response =>
    let status := (Std.Http.Status.ofCode none response.status.toUInt16).getD .internalServerError
    let builder := response.headers.foldl (fun b (name, value) => (b.header? name value).getD b)
      (Std.Http.Response.withStatus status)
    return builder.body (.ofBody (← Std.Http.Body.Full.ofString response.body))

def stopped : Async Unit := do
  let told ← Signal.Waiter.mk .sigint false
  let ended ← Signal.Waiter.mk .sigterm false
  Selectable.one #[.case told.selector pure, .case ended.selector pure]

def listen (service : Std.Mutex Service) (address : String) : Async Std.Http.Server := do
  let (host, port) := (Text.splitLast? ':' address.toList).getD ([], [])
  let address ← addressOf (String.ofList host) ((Text.natural? port).getD 0)
  Std.Http.Server.serve address (Std.Http.Server.Handler.ofFn (respond service)) { serverName := none }

/-- Goes on with the passes of a service that has begun, until the program is told to stop. A pass that is under way is
completed. -/
def record (service : Std.Mutex Service) : Async Unit := do
  let s ← service.atomically get
  let start ← IO.monoMsNow
  if s.command.recordsHistory then
    background (repeatPass s.settings.snapshotInterval (snapshotPass service) start 1)
    if s.archive.history.evictsByAge then
      let retention := s.settings.retention.toOption.join
      background (repeatPass s.settings.removalInterval (removalPass service retention) start 1)
  stopped
  service.atomically (pure ())

def serve (s : Service) : IO Exit := do
  let service ← Std.Mutex.new s
  match s.listenAddress, s.command.servesApi with
  | .ok address, true =>
    try
      let server ← (listen service address).block
      (record service).block
      server.shutdownAndWait.block
      return {}
    catch e =>
      return .ofFailure (.configuration ("failed to bind " ++ address ++ ": " ++ e.toString))
  | .error f, true => return .ofFailure f
  | _, false =>
    (record service).block
    return {}

def clusterVariables : List String :=
  ["KUBERNETES_SERVICE_HOST", "KUBERNETES_SERVICE_PORT"]

def environment : IO Settings.Environment :=
  (Settings.Key.all.map Settings.Key.variableName ++ clusterVariables).filterMapM fun name =>
    return (← IO.getEnv name).map fun value => (name, value)

def pathsOf (s : Settings) : List String :=
  let database := (History.Location.ofText s.databaseUrl).toOption.map History.Location.path
  Roster.tokenPath :: s.clustersFile.toList ++ database.toList

def surroundings (env : Settings.Environment) (s : Settings) : IO Surroundings := do
  let here := Place.ofPath [] (← IO.currentDir).toString
  let disk ← (pathsOf s).foldlM (fun disk path => follow disk (.ofPath here path)) {}
  return { environment := env, disk, here }

def run (args : List String) : IO Exit := do
  let env ← environment
  match Settings.Invocation.ofArgs args env with
  | .error usage => return .ofUsage usage
  | .ok i =>
    let around ← surroundings env i.settings
    let ids ← freshIds
    let clock ← clock
    let begin (web : Net.Web) : Launch := launch around web ids clock i
    let l := begin (← (settle (fun web => (begin web).sent) unanswered []).block)
    carryOut around.disk l.disk
    match l.result with
    | .error mishap => return .ofMishap mishap
    | .ok s => if s.command = .snapshot then return {} else serve s

end ClusterWatch.Program

def main (args : List String) : IO UInt32 := do
  let ended ← ClusterWatch.Program.run args
  IO.print ended.output
  IO.eprint ended.errors
  return ended.code.toUInt32
