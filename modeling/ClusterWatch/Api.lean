import ClusterWatch.Api.Details
import ClusterWatch.Api.Files
import ClusterWatch.Api.Route
import ClusterWatch.Fetch
import ClusterWatch.History
import ClusterWatch.History.Window
import ClusterWatch.Net.Form
import ClusterWatch.Roster

namespace ClusterWatch

open Json

structure Api where
  roster : Roster
  connector : Connector
  limits : Limits
  history : History.Shelf
  disk : Disk := {}
  folder : Place := []

namespace Api

structure Work where
  sent : List Net.Request := []
  fetched : Option (Cluster × Fetch.Course) := none
  response : Option Response

namespace Work

def done (r : Response) : Work := { response := some r }

def ofDialogue {α : Type} (d : Net.Dialogue α) (next : α → Work) : Work :=
  match d.result with
  | .error f => { sent := d.sent, response := some (.ofFailure f) }
  | .ok a => { next a with sent := d.sent ++ (next a).sent }

def ofExcept {α : Type} (r : Except Failure α) (encode : α → Json) : Work :=
  done (match r with
    | .ok a => .ofJson (encode a)
    | .error f => .ofFailure f)

end Work

def status (api : Api) (c : Cluster) : Work :=
  let course := fetchSnapshot api.connector api.limits c
  { fetched := some (c, course)
    response := match course.result with
      | .ok snapshot => some (.ofJson snapshot.encode)
      | .error (.failure f) => some (.ofFailure f)
      | .error .crash => none }

def windowOf (query : String) : Except String History.Window :=
  let pairs := Net.Form.decode query
  let once (name : String) : Except String (Option String) :=
    match (pairs.filter (·.1 = name)).map Prod.snd with
    | [] => .ok none
    | [value] => .ok (some value)
    | _ => .error ("Failed to deserialize query string: duplicate field `" ++ name ++ "`")
  do return { since := ← once "from", till := ← once "to" }

def entries (api : Api) (now : Instant) (identifier : String) (w : History.Window) : Work :=
  .ofDialogue (api.roster.lookup identifier) fun c =>
    match w.resolve? now with
    | some (since, till) =>
      .ofExcept (api.history.entries c.identifier since till) (ofList History.Entry.encode)
    | none => { response := none }

/-- One entry by its id, whichever cluster it is of. -/
def entry (api : Api) (id : String) : Work :=
  match Uuid.ofText? id with
  | some id => .ofExcept (api.history.fetch id) Snapshot.encode
  | none =>
    .done (.ofFailure (.invalidInput (Text.quoted id ++ " is not a history entry id")))

def bodyLimit : Nat := 2097152

/-- The cluster that a request describes; it is known by its address. -/
def described (r : Request) : Except Failure Cluster := do
  if !((r.header? "content-type").any Net.MediaType.isJson) then
    throw (.invalidInput "Expected request with `Content-Type: application/json`")
  if bodyLimit < r.body.utf8ByteSize then
    throw (.invalidInput "Failed to buffer the request body: length limit exceeded")
  match Details.read r.body with
  | .error fault => throw (.invalidInput fault.message)
  | .ok d =>
    if d.address.toList.all Text.isBlank then throw (.invalidInput "address is required")
    return {
      identifier := d.address
      address := d.address
      username := d.username
      password := d.password
      token := d.token }

def named (pairs : List (String × List Char)) (next : List String → Work) : Work :=
  match pairs.mapM fun (what, cs) => nameOf what cs with
  | .error reason => .done (.ofText reason 400)
  | .ok names => next names

def document (api : Api) (now : Instant) (r : Request) : Route → Work
  | .clusters =>
    .ofDialogue api.roster.clusters fun cs =>
      .done (.ofJson (ofList Cluster.encode (cs.map Cluster.obfuscated)))
  | .status cluster =>
    named [("cluster", cluster)] fun names =>
      .ofDialogue (api.roster.lookup (names.headD "")) api.status
  | .history cluster =>
    named [("cluster", cluster)] fun names =>
      match windowOf (r.query.getD "") with
      | .error reason => .done (.ofText reason 400)
      | .ok w => api.entries now (names.headD "") w
  | .entry cluster id =>
    named [("cluster", cluster), ("entry", id)] fun names => api.entry (names.getLastD "")
  | .fullStatus =>
    match described r with
    | .error f => .done (.ofFailure f)
    | .ok c => api.status c
  | .health => .done (.ofText "ok")
  | .file => .done (Files.answer api.disk api.folder r)

def anyOrigin : List (String × String) := [("access-control-allow-origin", "*")]

def permissions (route : Route) : Response where
  status := 200
  headers := anyOrigin ++
    [("access-control-allow-methods", "GET,HEAD,POST,PUT,OPTIONS"),
      ("access-control-allow-headers",
        "accept,accept-encoding,accept-language,content-type,origin,x-requested-with")] ++
    (if route = .file then [] else [("allow", ",".intercalate route.methods)])

def handle (api : Api) (now : Instant) (r : Request) : Work :=
  let route := Route.ofPath r.path
  if r.method = "OPTIONS" then .done (permissions route)
  else
    let work :=
      if route ≠ .file && !route.methods.contains r.method then .done (.notAllowed route.methods)
      else api.document now r route
    { work with
      response := work.response.map fun response =>
        let response := if r.method = "HEAD" then response.head else response
        { response with headers := anyOrigin ++ response.headers } }

end Api

end ClusterWatch
