import ClusterWatch.Net.Status
import ClusterWatch.Roster

namespace ClusterWatch.Roster

open Json Net

structure Team where
  slug : String
  bucket : String
  deriving Repr, DecidableEq

namespace Team

def decode : Decoder Team := fun room j => do
  let r ← Record.ofJson? [["slug"], ["bucket_uuid"]] room j
  return { slug := ← r.required "slug" .text, bucket := ← r.required "bucket_uuid" .text }

end Team

structure Member where
  name : String
  address : String
  username : String
  password : String

namespace Member

def decode : Decoder Member := fun room j => do
  let r ← Record.ofJson? [["identifier"], ["address"], ["username"], ["password"]] room j
  return {
    name := ← r.required "identifier" .text
    address := ← r.required "address" .text
    username := ← r.text "username"
    password := ← r.text "password" }

def unlessEmpty (s : String) : Option String :=
  if s.isEmpty then none else some s

def cluster (team : Team) (m : Member) : Cluster where
  identifier := team.slug ++ "+" ++ m.name
  address := m.address
  username := unlessEmpty m.username
  password := unlessEmpty m.password

end Member

structure Directory where
  address : String
  key : String

namespace Directory

def ofKey (address key : String) : Except Failure Directory :=
  if key.isEmpty then
    .error (.configuration "CONTINUOUS_PIPE_API_KEY is required for the continuous-pipe provider")
  else .ok ⟨String.ofList (Text.dropEnd '/' address.toList), key⟩

def unreachable (reason : String) : Failure :=
  .connection "continuous-pipe directory" reason

def answerOf {α : Type} (url : String) (decode : Decoder α) (r : Response) : Except Failure α :=
  if r.status = 404 then .error (.notFound url)
  else if r.status ≠ 200 then
    .error (unreachable ("GET " ++ url ++ " returned " ++ Status.text r.status))
  else match r.read? decode with
    | some a => .ok a
    | none => .error (unreachable ("decoding " ++ url ++ ": " ++ undecodableBody))

def get {α : Type} (web : Web) (d : Directory) (path : String) (decode : Decoder α) : Dialogue α :=
  let url := d.address ++ path
  match Request.ofText url [("x-api-key", d.key)] [] with
  | .error fault => .fail (unreachable fault.message)
  | .ok request =>
    match web.answer request with
    | .error fault => ⟨[request], .error (unreachable fault.message)⟩
    | .ok response => ⟨[request], answerOf url decode response⟩

def clustersOf (web : Web) (d : Directory) (team : Team) : Dialogue (List Cluster) := do
  let members ← d.get web ("/api/bucket/" ++ team.bucket ++ "/clusters") (.list Member.decode)
  return members.map (Member.cluster team)

def clusters (web : Web) (d : Directory) : Dialogue (List Cluster) := do
  let teams ← d.get web "/api/teams" (.list Team.decode)
  let lists ← teams.mapM (d.clustersOf web)
  return lists.flatten

/-- Only the team that an identifier begins with is asked about. -/
def lookup (web : Web) (d : Directory) (identifier : String) : Dialogue Cluster :=
  match Text.splitFirst? ['+'] identifier.toList with
  | none =>
    .fail (.invalidInput ("cluster identifier " ++ Text.quoted identifier ++
      " is not of the form <team>+<cluster>"))
  | some (slug, _) => do
    let team ← d.get web ("/api/teams/" ++ String.ofList slug) Team.decode
    .ofExcept (pick (← d.clustersOf web team) identifier)

end Directory

def ofDirectory (web : Web) (d : Directory) : Roster where
  clusters := d.clusters web
  lookup := d.lookup web

end ClusterWatch.Roster
