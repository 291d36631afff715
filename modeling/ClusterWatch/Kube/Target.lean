import ClusterWatch.Kube.Listing

namespace ClusterWatch.Kube

inductive Target where
  | node (name : String)
  | pod (ns name uid : String)
  deriving Repr, DecidableEq

namespace Target

def ofNode (n : Node) : Target :=
  .node n.metadata.name

def ofPod (p : Pod) : Target :=
  .pod p.metadata.ns p.metadata.name p.metadata.uid

/-- The namespace to search in; events of nodes are searched in all. -/
def ns? : Target → Option String
  | .node _ => none
  | .pod ns _ _ => some ns

/-- An unknown uid is left out of the selection. -/
def selector : Target → String
  | .node name => "involvedObject.kind=Node,involvedObject.name=" ++ name
  | .pod ns name uid =>
    "involvedObject.name=" ++ name ++ ",involvedObject.namespace=" ++ ns ++
      (if uid.isEmpty then "" else ",involvedObject.uid=" ++ uid)

def display : Target → String
  | .node name => "node " ++ name
  | .pod ns name _ => "pod " ++ ns ++ "/" ++ name

end Target

end ClusterWatch.Kube
