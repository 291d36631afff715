import ClusterWatch.Json.Reader
import ClusterWatch.Roster
import ClusterWatch.Yaml.Reader

namespace ClusterWatch.Roster

open Json

def Fixed.ofJson (text : String) : Except Failure Fixed :=
  match (Json.read? text).bind (Decoder.list Cluster.decode textRoom) with
  | some clusters => Fixed.ofList clusters
  | none => .error (.configuration "parsing cluster list: no array of clusters")

/-- A scalar is a text whatever it looks like, but where a value may be missing a null is none. -/
def memberOf (name : String) (value : Yaml) : Json :=
  match value.text? with
  | none => .array []
  | some s =>
    if value.isNull && !(["identifier", "address"].contains name) then .null else .string s

def clusterOfYaml? : Yaml → Option Cluster
  | .mapping pairs => do
    let members ← pairs.mapM fun (key, value) => do
      let spelling ← key.text?
      let name := (Record.Shape.name? Cluster.shape spelling).getD ""
      return (spelling, memberOf name value)
    Cluster.decode textRoom (.object members)
  | _ => none

def clustersOfYaml? : Yaml → Option (List Cluster)
  | .sequence items => items.mapM clusterOfYaml?
  | .scalar "" true => some []
  | _ => none

/-- A document has one list of clusters at most, and whatever else it likes. -/
def ofDocument? : Yaml → Option (List Cluster)
  | .scalar "" true => some []
  | .mapping pairs => do
    let named ← pairs.mapM fun (key, value) => key.text?.map fun name => (name, value)
    match named.filter (·.1 = "clusters") with
    | [] => some []
    | [(_, value)] => clustersOfYaml? value
    | _ => none
  | _ => none

def Fixed.ofYaml (text : String) : Except Failure Fixed :=
  match (Yaml.read? text).bind fun document => document.elim (some []) ofDocument? with
  | some clusters => Fixed.ofList clusters
  | none => .error (.configuration "parsing clusters file: no list of clusters")

end ClusterWatch.Roster
