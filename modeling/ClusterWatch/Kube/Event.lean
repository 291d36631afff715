import ClusterWatch.Kube.Metadata

namespace ClusterWatch.Kube

open Json

structure Reference where
  kind : String := ""
  ns : String := ""
  name : String := ""
  uid : String := ""
  deriving Repr, DecidableEq, Inhabited

namespace Reference

def encode (o : Reference) : Json :=
  .object (unlessEmpty "kind" o.kind ++ unlessEmpty "namespace" o.ns ++ unlessEmpty "name" o.name ++
    unlessEmpty "uid" o.uid)

def decode : Decoder Reference := fun room j => do
  let r ← Record.ofJson? [["kind"], ["namespace"], ["name"], ["uid"]] room j
  return {
    kind := ← r.text "kind"
    ns := ← r.text "namespace"
    name := ← r.text "name"
    uid := ← r.text "uid" }

end Reference

structure EventSource where
  component : String := ""
  host : String := ""
  deriving Repr, DecidableEq, Inhabited

namespace EventSource

def encode (s : EventSource) : Json :=
  .object (unlessEmpty "component" s.component ++ unlessEmpty "host" s.host)

def decode : Decoder EventSource := fun room j => do
  let r ← Record.ofJson? [["component"], ["host"]] room j
  return { component := ← r.text "component", host := ← r.text "host" }

end EventSource

structure Event where
  metadata : Metadata := {}
  involved : Reference := {}
  reason : String := ""
  message : String := ""
  type : String := ""
  count : Int32 := 0
  source : Option EventSource := none
  first : Option String := none
  last : Option String := none
  deriving Repr, DecidableEq, Inhabited

namespace Event

def shape : Record.Shape :=
  [["metadata"], ["involvedObject"], ["reason"], ["message"], ["type"], ["count"], ["source"],
    ["firstTimestamp"], ["lastTimestamp"]]

def encode (e : Event) : Json :=
  .object ([("metadata", e.metadata.encode), ("involvedObject", e.involved.encode)] ++
    unlessEmpty "reason" e.reason ++ unlessEmpty "message" e.message ++ unlessEmpty "type" e.type ++
    [("count", .integer e.count.toInt)] ++ ifSome "source" EventSource.encode e.source ++
    ifSome "firstTimestamp" .string e.first ++ ifSome "lastTimestamp" .string e.last)

def decode : Decoder Event := fun room j => do
  let r ← Record.ofJson? shape room j
  return {
    metadata := ← r.orElse "metadata" Metadata.decode {}
    involved := ← r.orElse "involvedObject" Reference.decode {}
    reason := ← r.text "reason"
    message := ← r.text "message"
    type := ← r.text "type"
    count := ← r.orElse "count" .int32 0
    source := ← r.optional "source" EventSource.decode
    first := ← r.optional "firstTimestamp" .text
    last := ← r.optional "lastTimestamp" .text }

end Event

end ClusterWatch.Kube
