import ClusterWatch.Kube.Pod

namespace ClusterWatch.Kube

open Json

structure NodeCondition where
  type : String := ""
  status : String := ""
  reason : Option String := none
  message : Option String := none
  lastHeartbeat : Option String := none
  lastTransition : Option String := none
  deriving Repr, DecidableEq, Inhabited

namespace NodeCondition

def shape : Record.Shape :=
  [["type"], ["status"], ["reason"], ["message"], ["lastHeartbeatTime"], ["lastTransitionTime"]]

def encode (c : NodeCondition) : Json :=
  .object ([("type", .string c.type), ("status", .string c.status)] ++
    ifSome "reason" .string c.reason ++ ifSome "message" .string c.message ++
    ifSome "lastHeartbeatTime" .string c.lastHeartbeat ++
    ifSome "lastTransitionTime" .string c.lastTransition)

def decode : Decoder NodeCondition := fun room j => do
  let r ← Record.ofJson? shape room j
  return {
    type := ← r.text "type"
    status := ← r.text "status"
    reason := ← r.optional "reason" .text
    message := ← r.optional "message" .text
    lastHeartbeat := ← r.optional "lastHeartbeatTime" .text
    lastTransition := ← r.optional "lastTransitionTime" .text }

end NodeCondition

structure NodeReport where
  conditions : List NodeCondition := []
  capacity : ResourceList := ∅
  allocatable : ResourceList := ∅
  volumesInUse : List String := []
  deriving Repr, DecidableEq, Inhabited

namespace NodeReport

def encode (s : NodeReport) : Json :=
  .object [("conditions", ofList NodeCondition.encode s.conditions),
    ("capacity", ofDictionary .string s.capacity), ("allocatable", ofDictionary .string s.allocatable),
    ("volumesInUse", ofList .string s.volumesInUse)]

def decode : Decoder NodeReport := fun room j => do
  let r ← Record.ofJson? [["conditions"], ["capacity"], ["allocatable"], ["volumesInUse"]] room j
  return {
    conditions := ← r.list "conditions" NodeCondition.decode
    capacity := ← r.orElse "capacity" (.dictionary .text) ∅
    allocatable := ← r.orElse "allocatable" (.dictionary .text) ∅
    volumesInUse := ← r.list "volumesInUse" .text }

end NodeReport

structure Node where
  tag : Tag := {}
  metadata : Metadata := {}
  status : NodeReport := {}
  deriving Repr, DecidableEq, Inhabited

namespace Node

def encode (n : Node) : Json :=
  .object (n.tag.encode ++ [("metadata", n.metadata.encode), ("status", n.status.encode)])

def decode : Decoder Node := fun room j => do
  let r ← Record.ofOpenJson? (Tag.shape ++ [["metadata"], ["status"]]) room j
  return {
    tag := ← Tag.ofRecord r
    metadata := ← r.orElse "metadata" Metadata.decode {}
    status := ← r.orElse "status" NodeReport.decode {} }

end Node

end ClusterWatch.Kube
