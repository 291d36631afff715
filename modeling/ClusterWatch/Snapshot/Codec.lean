import ClusterWatch.Snapshot

namespace ClusterWatch

open Json

variable {α : Type}

def ByResource.encode (item : α → Json) (p : ByResource α) : Json :=
  .object [("cpu", item p.cpu), ("memory", item p.memory)]

def ByResource.decode (item : Decoder α) : Decoder (ByResource α) := fun room j => do
  let r ← Record.ofJson? [["cpu"], ["memory"]] room j
  return { cpu := ← r.required "cpu" item, memory := ← r.required "memory" item }

def ByBound.encode (item : α → Json) (p : ByBound α) : Json :=
  .object [("requests", item p.requests), ("limits", item p.limits)]

def ByBound.decode (item : Decoder α) : Decoder (ByBound α) := fun room j => do
  let r ← Record.ofJson? [["requests"], ["limits"]] room j
  return { requests := ← r.required "requests" item, limits := ← r.required "limits" item }

def Readiness.encode : Readiness → Json
  | .ready => .string "Ready"
  | .notReady => .string "NotReady"

def Readiness.decode : Decoder Readiness :=
  .choice [("Ready", .ready), ("NotReady", .notReady)]

def encodePercent (p : UInt32) : Json :=
  .integer p.toNat

namespace ResourceSummary

def encode (s : ResourceSummary) : Json :=
  .object [("cpu", s.cpu.encode .string), ("memory", s.memory.encode .string),
    ("percentOfAvailable", s.percent.encode (ByBound.encode encodePercent))]

def decode : Decoder ResourceSummary := fun room j => do
  let r ← Record.ofJson? [["cpu"], ["memory"], ["percentOfAvailable"]] room j
  return {
    cpu := ← r.required "cpu" (ByBound.decode .text)
    memory := ← r.required "memory" (ByBound.decode .text)
    percent := ← r.required "percentOfAvailable" (ByResource.decode (ByBound.decode .uint32)) }

end ResourceSummary

namespace NodeStatus

def shape : Record.Shape :=
  [["name"], ["creationTimestamp"], ["status"], ["conditions"], ["events"], ["resources"], ["capacity"],
    ["allocatable"], ["volumesInUse"]]

def encode (n : NodeStatus) : Json :=
  .object [("name", .string n.name), ("creationTimestamp", .string n.created),
    ("status", n.readiness.encode), ("conditions", ofList Kube.NodeCondition.encode n.conditions),
    ("events", ofList Kube.Event.encode n.events), ("resources", n.resources.encode),
    ("capacity", n.capacity.encode .string), ("allocatable", n.allocatable.encode .string),
    ("volumesInUse", .integer n.volumesInUse.toNat)]

def decode : Decoder NodeStatus := fun room j => do
  let r ← Record.ofJson? shape room j
  return {
    name := ← r.required "name" .text
    created := ← r.required "creationTimestamp" .text
    readiness := ← r.required "status" Readiness.decode
    conditions := ← r.required "conditions" (.list Kube.NodeCondition.decode)
    events := ← r.list "events" Kube.Event.decode
    resources := ← r.required "resources" ResourceSummary.decode
    capacity := ← r.required "capacity" (ByResource.decode .text)
    allocatable := ← r.required "allocatable" (ByResource.decode .text)
    volumesInUse := ← r.required "volumesInUse" .uint64 }

end NodeStatus

def Activity.encode : Activity → Json
  | .running => .string "Running"
  | .terminated => .string "Terminated"
  | .waiting => .string "Waiting"

def Activity.decode : Decoder Activity :=
  .choice [("Running", .running), ("Terminated", .terminated), ("Waiting", .waiting)]

namespace ContainerStatus

def shape : Record.Shape :=
  [["name"], ["state"], ["isReady"], ["restartCount"], ["resources"]]

def encode (c : ContainerStatus) : Json :=
  .object [("name", .string c.name), ("state", ofOption Activity.encode c.activity),
    ("isReady", .bool c.ready), ("restartCount", .integer c.restarts.toInt),
    ("resources", c.resources.encode (ByBound.encode .string))]

def decode : Decoder ContainerStatus := fun room j => do
  let r ← Record.ofJson? shape room j
  return {
    name := ← r.required "name" .text
    activity := ← r.nullable "state" Activity.decode
    ready := ← r.required "isReady" .flag
    restarts := ← r.required "restartCount" .int32
    resources := ← r.required "resources" (ByResource.decode (ByBound.decode .text)) }

end ContainerStatus

namespace PodStatus

def shape : Record.Shape :=
  [["namespace"], ["name"], ["status"], ["creationTimestamp"], ["isReady"], ["nodeName"],
    ["containers"], ["events"]]

def encode (p : PodStatus) : Json :=
  .object [("namespace", .string p.ns), ("name", .string p.name), ("status", .string p.phase),
    ("creationTimestamp", .string p.created), ("isReady", .bool p.ready),
    ("nodeName", .string p.node), ("containers", ofList ContainerStatus.encode p.containers),
    ("events", ofList Kube.Event.encode p.events)]

def decode : Decoder PodStatus := fun room j => do
  let r ← Record.ofJson? shape room j
  return {
    ns := ← r.required "namespace" .text
    name := ← r.required "name" .text
    phase := ← r.required "status" .text
    created := ← r.required "creationTimestamp" .text
    ready := ← r.required "isReady" .flag
    node := ← r.required "nodeName" .text
    containers := ← r.required "containers" (.list ContainerStatus.decode)
    events := ← r.list "events" Kube.Event.decode }

end PodStatus

namespace Snapshot

def encode (s : Snapshot) : Json :=
  .object ([("nodes", ofList NodeStatus.encode s.nodes),
    ("pods", ofDictionary (ofList PodStatus.encode) s.pods)] ++
    (if s.warnings.isEmpty then [] else [("warnings", ofList .string s.warnings)]))

def decode : Decoder Snapshot := fun room j => do
  let r ← Record.ofJson? [["nodes"], ["pods"], ["warnings"]] room j
  return {
    nodes := ← r.required "nodes" (.list NodeStatus.decode)
    pods := ← r.required "pods" (.dictionary (.list PodStatus.decode))
    warnings := ← r.list "warnings" .text }

end Snapshot

end ClusterWatch
