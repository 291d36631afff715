import ClusterWatch.ControlPlane
import ClusterWatch.Net.Web

namespace ClusterWatch.Kube

open Net

structure Client where
  address : String
  credentials : Credentials

namespace Client

def ofCluster (c : Cluster) : Client where
  address := String.ofList (Text.dropEnd '/' c.address.toList)
  credentials := c.credentials

def headers (c : Client) : List (String × String) :=
  match c.credentials with
  | .basic user password => [basicAuthorization user password]
  | .bearer token => [("authorization", "Bearer " ++ token)]
  | .anonymous => []

def pathOf : Question → String
  | .version => "/version"
  | .nodes => "/api/v1/nodes"
  | .pods _ => "/api/v1/pods"
  | .events target =>
    match target.ns? with
    | some ns => "/api/v1/namespaces/" ++ ns ++ "/events"
    | none => "/api/v1/events"

def queryOf : Question → List (String × String)
  | .version | .nodes => []
  | .pods node =>
    [("fieldSelector",
      "spec.nodeName=" ++ node ++ ",status.phase!=Succeeded,status.phase!=Failed")]
  | .events target => [("fieldSelector", target.selector)]

def urlOf (c : Client) (q : Question) : String :=
  c.address ++ pathOf q

def request (c : Client) (q : Question) : Except SendFault Request :=
  Request.ofText (c.urlOf q) c.headers (queryOf q)

def answerOf {α : Type} (url : String) (d : Json.Decoder α) (r : Response) :
    Except ClientFault α :=
  if r.status = 401 || r.status = 403 then .error (.unauthorized url r.status)
  else if 400 ≤ r.status then .error (.status url r.status r.content)
  else match r.read? d with
    | some a => .ok a
    | none => .error (.undecodable url undecodableBody)

def ask {α : Type} (web : Web) (c : Client) (q : Question) (d : Json.Decoder α) :
    Except ClientFault α :=
  let url := c.urlOf q
  match (c.request q).bind web.answer with
  | .error fault => .error (.transport url fault.message)
  | .ok response => answerOf url d response

def version (web : Web) (c : Client) : Except ClientFault String :=
  c.ask web .version decodeVersion

def nodes (web : Web) (c : Client) : Except ClientFault (Listing Node) :=
  c.ask web .nodes (Listing.decode Node.decode)

def pods (web : Web) (c : Client) (node : String) : Except ClientFault (Listing Pod) :=
  c.ask web (.pods node) (Listing.decode Pod.decode)

def events (web : Web) (c : Client) (target : Target) : Except ClientFault (Listing Event) :=
  c.ask web (.events target) (Listing.decode Event.decode)

def atOnce {α : Type} (r : Except ClientFault α) : Call α :=
  ⟨0, .ofExcept r⟩

def controlPlane (web : Web) (c : Client) : ControlPlane where
  nodes := atOnce (c.nodes web)
  pods node := atOnce (c.pods web node)
  events target := atOnce (c.events web target)

def connector (web : Web) : Connector := fun cluster =>
  let c := ofCluster cluster
  atOnce ((c.version web).map fun _ => c.controlPlane web)

end Client

end ClusterWatch.Kube
