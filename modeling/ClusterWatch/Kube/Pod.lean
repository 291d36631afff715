import ClusterWatch.Kube.Metadata

namespace ClusterWatch.Kube

open Json

abbrev ResourceList := Dictionary String

structure Container where
  name : String := ""
  image : String := ""
  requests : ResourceList := ∅
  limits : ResourceList := ∅
  deriving Repr, DecidableEq, Inhabited

namespace Container

def encode (c : Container) : Json :=
  .object [("name", .string c.name), ("image", .string c.image),
    ("resources", .object [("requests", ofDictionary .string c.requests),
      ("limits", ofDictionary .string c.limits)])]

def decodeResources : Decoder (ResourceList × ResourceList) := fun room j => do
  let r ← Record.ofJson? [["requests"], ["limits"]] room j
  return (← r.orElse "requests" (.dictionary .text) ∅, ← r.orElse "limits" (.dictionary .text) ∅)

def decode : Decoder Container := fun room j => do
  let r ← Record.ofJson? [["name"], ["image"], ["resources"]] room j
  let (requests, limits) ← r.orElse "resources" decodeResources (∅, ∅)
  return { name := ← r.text "name", image := ← r.text "image", requests, limits }

end Container

/-- What a container is doing. Only whether a phase is there counts, not what is said about it. -/
structure ContainerPhase where
  running : Option Json := none
  waiting : Option Json := none
  terminated : Option Json := none
  deriving Repr, Inhabited

namespace ContainerPhase

def encode (p : ContainerPhase) : Json :=
  .object (ifSome "running" id p.running ++ ifSome "waiting" id p.waiting ++
    ifSome "terminated" id p.terminated)

def decode : Decoder ContainerPhase := fun room j => do
  let r ← Record.ofJson? [["running"], ["waiting"], ["terminated"]] room j
  return {
    running := ← r.optional "running" .value
    waiting := ← r.optional "waiting" .value
    terminated := ← r.optional "terminated" .value }

end ContainerPhase

structure ContainerReport where
  name : String := ""
  ready : Bool := false
  restarts : Int32 := 0
  phase : ContainerPhase := {}
  deriving Repr, Inhabited

namespace ContainerReport

def encode (c : ContainerReport) : Json :=
  .object [("name", .string c.name), ("ready", .bool c.ready),
    ("restartCount", .integer c.restarts.toInt), ("state", c.phase.encode)]

def decode : Decoder ContainerReport := fun room j => do
  let r ← Record.ofJson? [["name"], ["ready"], ["restartCount"], ["state"]] room j
  return {
    name := ← r.text "name"
    ready := ← r.orElse "ready" .flag false
    restarts := ← r.orElse "restartCount" .int32 0
    phase := ← r.orElse "state" ContainerPhase.decode {} }

end ContainerReport

structure PodCondition where
  type : String := ""
  status : String := ""
  deriving Repr, DecidableEq, Inhabited

namespace PodCondition

def encode (c : PodCondition) : Json :=
  .object [("type", .string c.type), ("status", .string c.status)]

def decode : Decoder PodCondition := fun room j => do
  let r ← Record.ofJson? [["type"], ["status"]] room j
  return { type := ← r.text "type", status := ← r.text "status" }

end PodCondition

structure PodSpec where
  node : String := ""
  containers : List Container := []
  initContainers : List Container := []
  deriving Repr, DecidableEq, Inhabited

namespace PodSpec

def encode (s : PodSpec) : Json :=
  .object [("nodeName", .string s.node), ("containers", ofList Container.encode s.containers),
    ("initContainers", ofList Container.encode s.initContainers)]

def decode : Decoder PodSpec := fun room j => do
  let r ← Record.ofJson? [["nodeName"], ["containers"], ["initContainers"]] room j
  return {
    node := ← r.text "nodeName"
    containers := ← r.list "containers" Container.decode
    initContainers := ← r.list "initContainers" Container.decode }

end PodSpec

structure PodReport where
  phase : String := ""
  conditions : List PodCondition := []
  containers : List ContainerReport := []
  deriving Repr, Inhabited

namespace PodReport

def encode (s : PodReport) : Json :=
  .object [("phase", .string s.phase), ("conditions", ofList PodCondition.encode s.conditions),
    ("containerStatuses", ofList ContainerReport.encode s.containers)]

def decode : Decoder PodReport := fun room j => do
  let r ← Record.ofJson? [["phase"], ["conditions"], ["containerStatuses"]] room j
  return {
    phase := ← r.text "phase"
    conditions := ← r.list "conditions" PodCondition.decode
    containers := ← r.list "containerStatuses" ContainerReport.decode }

end PodReport

structure Pod where
  tag : Tag := {}
  metadata : Metadata := {}
  spec : PodSpec := {}
  status : PodReport := {}
  deriving Repr, Inhabited

namespace Pod

def encode (p : Pod) : Json :=
  .object (p.tag.encode ++ [("metadata", p.metadata.encode), ("spec", p.spec.encode),
    ("status", p.status.encode)])

def decode : Decoder Pod := fun room j => do
  let r ← Record.ofOpenJson? (Tag.shape ++ [["metadata"], ["spec"], ["status"]]) room j
  return {
    tag := ← Tag.ofRecord r
    metadata := ← r.orElse "metadata" Metadata.decode {}
    spec := ← r.orElse "spec" PodSpec.decode {}
    status := ← r.orElse "status" PodReport.decode {} }

end Pod

end ClusterWatch.Kube
