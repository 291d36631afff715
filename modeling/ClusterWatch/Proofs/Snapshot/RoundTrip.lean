import ClusterWatch.Proofs.Json.Decoding
import ClusterWatch.Snapshot.Codec

namespace ClusterWatch

open Json Record

namespace Kube

namespace Reference

def fields (o : Reference) : Fields :=
  [("kind", unlessBlank o.kind), ("namespace", unlessBlank o.ns), ("name", unlessBlank o.name),
    ("uid", unlessBlank o.uid)]

theorem encode_eq (o : Reference) : o.encode = .object (present o.fields) := by
  simp only [encode, unlessEmpty_eq, ← present_append]
  rfl

theorem codes : Codes decode encode 1 := by
  apply codes_of_fields encode_eq
  · intro o
    simp [fields]
  · intro room o _
    have distinct : (o.fields.map Prod.fst).Nodup := by simp [fields]
    have kind : (ofFields o.fields room).text "kind" = some o.kind := text_ofFields distinct rfl
    have ns : (ofFields o.fields room).text "namespace" = some o.ns := text_ofFields distinct rfl
    have name : (ofFields o.fields room).text "name" = some o.name := text_ofFields distinct rfl
    have uid : (ofFields o.fields room).text "uid" = some o.uid := text_ofFields distinct rfl
    rw [decode, ofJson?_present (by decide) rfl]
    simp [kind, ns, name, uid]

end Reference

namespace EventSource

def fields (s : EventSource) : Fields :=
  [("component", unlessBlank s.component), ("host", unlessBlank s.host)]

theorem encode_eq (s : EventSource) : s.encode = .object (present s.fields) := by
  simp only [encode, unlessEmpty_eq, ← present_append]
  rfl

theorem codes : Codes decode encode 1 := by
  apply codes_of_fields encode_eq
  · intro s
    simp [fields]
  · intro room s _
    have distinct : (s.fields.map Prod.fst).Nodup := by simp [fields]
    have component : (ofFields s.fields room).text "component" = some s.component :=
      text_ofFields distinct rfl
    have host : (ofFields s.fields room).text "host" = some s.host := text_ofFields distinct rfl
    rw [decode, ofJson?_present (by decide) rfl]
    simp [component, host]

end EventSource

namespace Metadata

def fields (m : Metadata) : Fields :=
  [("name", unlessBlank m.name), ("namespace", unlessBlank m.ns), ("uid", unlessBlank m.uid),
    ("labels", m.labels.map (ofDictionary .string)),
    ("annotations", m.annotations.map (ofDictionary .string)),
    ("creationTimestamp", m.created.map .string)]

theorem encode_eq (m : Metadata) : m.encode = .object (present m.fields) := by
  simp only [encode, unlessEmpty_eq, ifSome_eq, ← present_append]
  rfl

theorem codes : Codes decode encode 2 := by
  apply codes_of_fields encode_eq
  · intro m
    simp [fields, Codes.text.dictionary.all_isPlain_map, Codes.text.all_isPlain_map]
  · intro room m enough
    have distinct : (m.fields.map Prod.fst).Nodup := by simp [fields]
    have name : (ofFields m.fields room).text "name" = some m.name := text_ofFields distinct rfl
    have ns : (ofFields m.fields room).text "namespace" = some m.ns := text_ofFields distinct rfl
    have uid : (ofFields m.fields room).text "uid" = some m.uid := text_ofFields distinct rfl
    have labels : (ofFields m.fields room).optional "labels" (.dictionary .text) = some m.labels :=
      optional_ofFields Codes.text.dictionary (by omega) distinct rfl
    have annotations : (ofFields m.fields room).optional "annotations" (.dictionary .text) = some m.annotations :=
      optional_ofFields Codes.text.dictionary (by omega) distinct rfl
    have created : (ofFields m.fields room).optional "creationTimestamp" .text = some m.created :=
      optional_ofFields Codes.text (Nat.zero_le _) distinct rfl
    rw [decode, ofJson?_present (by decide) rfl]
    simp [name, ns, uid, labels, annotations, created]

end Metadata

namespace Event

def fields (e : Event) : Fields :=
  [("metadata", some e.metadata.encode), ("involvedObject", some e.involved.encode),
    ("reason", unlessBlank e.reason), ("message", unlessBlank e.message), ("type", unlessBlank e.type),
    ("count", some (.integer e.count.toInt)), ("source", e.source.map EventSource.encode),
    ("firstTimestamp", e.first.map .string), ("lastTimestamp", e.last.map .string)]

theorem encode_eq (e : Event) : e.encode = .object (present e.fields) := by
  simp only [encode, unlessEmpty_eq, ifSome_eq]
  rw [show [("metadata", e.metadata.encode), ("involvedObject", e.involved.encode)] =
    present [("metadata", some e.metadata.encode), ("involvedObject", some e.involved.encode)] from rfl,
    show [("count", Json.integer e.count.toInt)] = present [("count", some (.integer e.count.toInt))] from rfl]
  simp only [← present_append]
  rfl

theorem codes : Codes decode encode 3 := by
  apply codes_of_fields encode_eq
  · intro e
    simp [fields, Metadata.codes.plain, Reference.codes.plain, isPlain, EventSource.codes.all_isPlain_map,
      Codes.text.all_isPlain_map]
  · intro room e enough
    have distinct : (e.fields.map Prod.fst).Nodup := by simp [fields]
    have metadata : (ofFields e.fields room).orElse "metadata" Metadata.decode {} = some e.metadata :=
      orElse_ofFields Metadata.codes (by omega) distinct rfl
    have involved : (ofFields e.fields room).orElse "involvedObject" Reference.decode {} = some e.involved :=
      orElse_ofFields Reference.codes (by omega) distinct rfl
    have reason : (ofFields e.fields room).text "reason" = some e.reason := text_ofFields distinct rfl
    have message : (ofFields e.fields room).text "message" = some e.message := text_ofFields distinct rfl
    have type : (ofFields e.fields room).text "type" = some e.type := text_ofFields distinct rfl
    have count : (ofFields e.fields room).orElse "count" .int32 0 = some e.count :=
      orElse_ofFields Codes.int32 (Nat.zero_le _) distinct rfl
    have source : (ofFields e.fields room).optional "source" EventSource.decode = some e.source :=
      optional_ofFields EventSource.codes (by omega) distinct rfl
    have first : (ofFields e.fields room).optional "firstTimestamp" .text = some e.first :=
      optional_ofFields Codes.text (Nat.zero_le _) distinct rfl
    have last : (ofFields e.fields room).optional "lastTimestamp" .text = some e.last :=
      optional_ofFields Codes.text (Nat.zero_le _) distinct rfl
    rw [decode, ofJson?_present (by decide) rfl]
    simp [metadata, involved, reason, message, type, count, source, first, last]

end Event

namespace NodeCondition

def fields (c : NodeCondition) : Fields :=
  [("type", some (.string c.type)), ("status", some (.string c.status)),
    ("reason", c.reason.map .string), ("message", c.message.map .string),
    ("lastHeartbeatTime", c.lastHeartbeat.map .string),
    ("lastTransitionTime", c.lastTransition.map .string)]

theorem encode_eq (c : NodeCondition) : c.encode = .object (present c.fields) := by
  simp only [encode, ifSome_eq]
  rw [show [("type", Json.string c.type), ("status", .string c.status)] =
    present [("type", some (.string c.type)), ("status", some (.string c.status))] from rfl]
  simp only [← present_append]
  rfl

theorem codes : Codes decode encode 1 := by
  apply codes_of_fields encode_eq
  · intro c
    simp [fields, isPlain, Codes.text.all_isPlain_map]
  · intro room c _
    have distinct : (c.fields.map Prod.fst).Nodup := by simp [fields]
    have type : (ofFields c.fields room).text "type" = some c.type :=
      orElse_ofFields Codes.text (Nat.zero_le _) distinct rfl
    have status : (ofFields c.fields room).text "status" = some c.status :=
      orElse_ofFields Codes.text (Nat.zero_le _) distinct rfl
    have reason : (ofFields c.fields room).optional "reason" .text = some c.reason :=
      optional_ofFields Codes.text (Nat.zero_le _) distinct rfl
    have message : (ofFields c.fields room).optional "message" .text = some c.message :=
      optional_ofFields Codes.text (Nat.zero_le _) distinct rfl
    have lastHeartbeat : (ofFields c.fields room).optional "lastHeartbeatTime" .text = some c.lastHeartbeat :=
      optional_ofFields Codes.text (Nat.zero_le _) distinct rfl
    have lastTransition : (ofFields c.fields room).optional "lastTransitionTime" .text = some c.lastTransition :=
      optional_ofFields Codes.text (Nat.zero_le _) distinct rfl
    rw [decode, ofJson?_present (by decide) rfl]
    simp [type, status, reason, message, lastHeartbeat, lastTransition]

end NodeCondition

end Kube

namespace ByResource

variable {α : Type} {item : α → Json} {d : Decoder α} {depth : Nat}

def fields (item : α → Json) (p : ByResource α) : Fields :=
  [("cpu", some (item p.cpu)), ("memory", some (item p.memory))]

theorem encode_eq (p : ByResource α) : p.encode item = .object (present (p.fields item)) :=
  rfl

theorem codes (h : Codes d item depth) : Codes (decode d) (encode item) (depth + 1) := by
  apply codes_of_fields encode_eq
  · intro p
    simp [fields, h.plain]
  · intro room p enough
    have distinct : ((p.fields item).map Prod.fst).Nodup := by simp [fields]
    have cpu : (ofFields (p.fields item) room).required "cpu" d = some p.cpu :=
      required_ofFields h enough distinct rfl
    have memory : (ofFields (p.fields item) room).required "memory" d = some p.memory :=
      required_ofFields h enough distinct rfl
    rw [decode, ofJson?_present (by decide) rfl]
    simp [cpu, memory]

end ByResource

namespace ByBound

variable {α : Type} {item : α → Json} {d : Decoder α} {depth : Nat}

def fields (item : α → Json) (p : ByBound α) : Fields :=
  [("requests", some (item p.requests)), ("limits", some (item p.limits))]

theorem encode_eq (p : ByBound α) : p.encode item = .object (present (p.fields item)) :=
  rfl

theorem codes (h : Codes d item depth) : Codes (decode d) (encode item) (depth + 1) := by
  apply codes_of_fields encode_eq
  · intro p
    simp [fields, h.plain]
  · intro room p enough
    have distinct : ((p.fields item).map Prod.fst).Nodup := by simp [fields]
    have requests : (ofFields (p.fields item) room).required "requests" d = some p.requests :=
      required_ofFields h enough distinct rfl
    have limits : (ofFields (p.fields item) room).required "limits" d = some p.limits :=
      required_ofFields h enough distinct rfl
    rw [decode, ofJson?_present (by decide) rfl]
    simp [requests, limits]

end ByBound

theorem percent_codes : Codes .uint32 encodePercent 0 :=
  Codes.uint32

theorem Readiness.codes : Codes Readiness.decode Readiness.encode 0 where
  undoes room r _ := by cases r <;> rfl
  plain r := by cases r <;> rfl
  solid r := by cases r <;> exact nofun

theorem Activity.codes : Codes Activity.decode Activity.encode 0 where
  undoes room a _ := by cases a <;> rfl
  plain a := by cases a <;> rfl
  solid a := by cases a <;> exact nofun

namespace ResourceSummary

def fields (s : ResourceSummary) : Fields :=
  [("cpu", some (s.cpu.encode .string)), ("memory", some (s.memory.encode .string)),
    ("percentOfAvailable", some (s.percent.encode (ByBound.encode encodePercent)))]

theorem encode_eq (s : ResourceSummary) : s.encode = .object (present s.fields) :=
  rfl

theorem codes : Codes decode encode 3 := by
  apply codes_of_fields encode_eq
  · intro s
    simp [fields, (ByBound.codes Codes.text).plain, (ByResource.codes (ByBound.codes percent_codes)).plain]
  · intro room s enough
    have distinct : (s.fields.map Prod.fst).Nodup := by simp [fields]
    have cpu : (ofFields s.fields room).required "cpu" (ByBound.decode .text) = some s.cpu :=
      required_ofFields (ByBound.codes Codes.text) (by omega) distinct rfl
    have memory : (ofFields s.fields room).required "memory" (ByBound.decode .text) = some s.memory :=
      required_ofFields (ByBound.codes Codes.text) (by omega) distinct rfl
    have percent : (ofFields s.fields room).required "percentOfAvailable" (ByResource.decode (ByBound.decode .uint32)) =
        some s.percent :=
      required_ofFields (ByResource.codes (ByBound.codes percent_codes)) (by omega) distinct rfl
    rw [decode, ofJson?_present (by decide) rfl]
    simp [cpu, memory, percent]

end ResourceSummary

namespace NodeStatus

def fields (n : NodeStatus) : Fields :=
  [("name", some (.string n.name)), ("creationTimestamp", some (.string n.created)),
    ("status", some n.readiness.encode),
    ("conditions", some (ofList Kube.NodeCondition.encode n.conditions)),
    ("events", some (ofList Kube.Event.encode n.events)), ("resources", some n.resources.encode),
    ("capacity", some (n.capacity.encode .string)), ("allocatable", some (n.allocatable.encode .string)),
    ("volumesInUse", some (.integer n.volumesInUse.toNat))]

theorem encode_eq (n : NodeStatus) : n.encode = .object (present n.fields) :=
  rfl

theorem codes : Codes decode encode 5 := by
  apply codes_of_fields encode_eq
  · intro n
    simp [fields, isPlain, Readiness.codes.plain, Kube.NodeCondition.codes.list.plain, Kube.Event.codes.list.plain,
      ResourceSummary.codes.plain, (ByResource.codes Codes.text).plain]
  · intro room n enough
    have distinct : (n.fields.map Prod.fst).Nodup := by simp [fields]
    have name : (ofFields n.fields room).required "name" .text = some n.name :=
      required_ofFields Codes.text (Nat.zero_le _) distinct rfl
    have created : (ofFields n.fields room).required "creationTimestamp" .text = some n.created :=
      required_ofFields Codes.text (Nat.zero_le _) distinct rfl
    have readiness : (ofFields n.fields room).required "status" Readiness.decode = some n.readiness :=
      required_ofFields Readiness.codes (by omega) distinct rfl
    have conditions : (ofFields n.fields room).required "conditions" (.list Kube.NodeCondition.decode) =
        some n.conditions :=
      required_ofFields Kube.NodeCondition.codes.list (by omega) distinct rfl
    have events : (ofFields n.fields room).list "events" Kube.Event.decode = some n.events :=
      orElse_ofFields Kube.Event.codes.list (by omega) distinct rfl
    have resources : (ofFields n.fields room).required "resources" ResourceSummary.decode = some n.resources :=
      required_ofFields ResourceSummary.codes (by omega) distinct rfl
    have capacity : (ofFields n.fields room).required "capacity" (ByResource.decode .text) = some n.capacity :=
      required_ofFields (ByResource.codes Codes.text) (by omega) distinct rfl
    have allocatable : (ofFields n.fields room).required "allocatable" (ByResource.decode .text) =
        some n.allocatable :=
      required_ofFields (ByResource.codes Codes.text) (by omega) distinct rfl
    have volumes : (ofFields n.fields room).required "volumesInUse" .uint64 = some n.volumesInUse :=
      required_ofFields Codes.uint64 (by omega) distinct rfl
    rw [decode, ofJson?_present (by decide) rfl]
    simp [name, created, readiness, conditions, events, resources, capacity, allocatable, volumes]

end NodeStatus

namespace ContainerStatus

def fields (c : ContainerStatus) : Fields :=
  [("name", some (.string c.name)), ("state", some (ofOption Activity.encode c.activity)),
    ("isReady", some (.bool c.ready)), ("restartCount", some (.integer c.restarts.toInt)),
    ("resources", some (c.resources.encode (ByBound.encode .string)))]

theorem encode_eq (c : ContainerStatus) : c.encode = .object (present c.fields) :=
  rfl

theorem codes : Codes decode encode 3 := by
  apply codes_of_fields encode_eq
  · intro c
    simp [fields, isPlain, Activity.codes.plain_ofOption, (ByResource.codes (ByBound.codes Codes.text)).plain]
  · intro room c enough
    have distinct : (c.fields.map Prod.fst).Nodup := by simp [fields]
    have name : (ofFields c.fields room).required "name" .text = some c.name :=
      required_ofFields Codes.text (Nat.zero_le _) distinct rfl
    have activity : (ofFields c.fields room).nullable "state" Activity.decode = some c.activity :=
      nullable_ofFields Activity.codes (by omega) distinct rfl
    have ready : (ofFields c.fields room).required "isReady" .flag = some c.ready :=
      required_ofFields Codes.flag (by omega) distinct rfl
    have restarts : (ofFields c.fields room).required "restartCount" .int32 = some c.restarts :=
      required_ofFields Codes.int32 (by omega) distinct rfl
    have resources : (ofFields c.fields room).required "resources" (ByResource.decode (ByBound.decode .text)) =
        some c.resources :=
      required_ofFields (ByResource.codes (ByBound.codes Codes.text)) (by omega) distinct rfl
    rw [decode, ofJson?_present (by decide) rfl]
    simp [name, activity, ready, restarts, resources]

end ContainerStatus

namespace PodStatus

def fields (p : PodStatus) : Fields :=
  [("namespace", some (.string p.ns)), ("name", some (.string p.name)),
    ("status", some (.string p.phase)), ("creationTimestamp", some (.string p.created)),
    ("isReady", some (.bool p.ready)), ("nodeName", some (.string p.node)),
    ("containers", some (ofList ContainerStatus.encode p.containers)),
    ("events", some (ofList Kube.Event.encode p.events))]

theorem encode_eq (p : PodStatus) : p.encode = .object (present p.fields) :=
  rfl

theorem codes : Codes decode encode 5 := by
  apply codes_of_fields encode_eq
  · intro p
    simp [fields, isPlain, ContainerStatus.codes.list.plain, Kube.Event.codes.list.plain]
  · intro room p enough
    have distinct : (p.fields.map Prod.fst).Nodup := by simp [fields]
    have ns : (ofFields p.fields room).required "namespace" .text = some p.ns :=
      required_ofFields Codes.text (Nat.zero_le _) distinct rfl
    have name : (ofFields p.fields room).required "name" .text = some p.name :=
      required_ofFields Codes.text (Nat.zero_le _) distinct rfl
    have phase : (ofFields p.fields room).required "status" .text = some p.phase :=
      required_ofFields Codes.text (Nat.zero_le _) distinct rfl
    have created : (ofFields p.fields room).required "creationTimestamp" .text = some p.created :=
      required_ofFields Codes.text (Nat.zero_le _) distinct rfl
    have ready : (ofFields p.fields room).required "isReady" .flag = some p.ready :=
      required_ofFields Codes.flag (by omega) distinct rfl
    have node : (ofFields p.fields room).required "nodeName" .text = some p.node :=
      required_ofFields Codes.text (Nat.zero_le _) distinct rfl
    have containers : (ofFields p.fields room).required "containers" (.list ContainerStatus.decode) =
        some p.containers :=
      required_ofFields ContainerStatus.codes.list (by omega) distinct rfl
    have events : (ofFields p.fields room).list "events" Kube.Event.decode = some p.events :=
      orElse_ofFields Kube.Event.codes.list (by omega) distinct rfl
    rw [decode, ofJson?_present (by decide) rfl]
    simp [ns, name, phase, created, ready, node, containers, events]

end PodStatus

namespace Snapshot

def fields (s : Snapshot) : Fields :=
  [("nodes", some (ofList NodeStatus.encode s.nodes)),
    ("pods", some (ofDictionary (ofList PodStatus.encode) s.pods)),
    ("warnings", if s.warnings.isEmpty then none else some (ofList .string s.warnings))]

theorem encode_eq (s : Snapshot) : s.encode = .object (present s.fields) := by
  unfold encode fields
  split <;> rfl

theorem codes : Codes decode encode 8 := by
  apply codes_of_fields encode_eq
  · intro s
    have warnings : (if s.warnings.isEmpty then none else some (ofList .string s.warnings)).all isPlain := by
      split
      · rfl
      · exact Codes.text.list.plain s.warnings
    simpa [fields, NodeStatus.codes.list.plain, PodStatus.codes.list.dictionary.plain] using warnings
  · intro room s enough
    have distinct : (s.fields.map Prod.fst).Nodup := by simp [fields]
    have nodes : (ofFields s.fields room).required "nodes" (.list NodeStatus.decode) = some s.nodes :=
      required_ofFields NodeStatus.codes.list (by omega) distinct rfl
    have pods : (ofFields s.fields room).required "pods" (.dictionary (.list PodStatus.decode)) = some s.pods :=
      required_ofFields PodStatus.codes.list.dictionary (by omega) distinct rfl
    have warnings : (ofFields s.fields room).list "warnings" .text = some s.warnings := by
      rw [Record.list, orElse, lookup_ofFields distinct rfl]
      by_cases none : s.warnings.isEmpty
      · have empty : s.warnings = [] := List.isEmpty_iff.1 none
        rw [if_pos none, empty]
      · rw [if_neg none]
        exact Codes.text.list.undoes room s.warnings (by omega)
    rw [decode, ofJson?_present (by decide) rfl]
    simp [nodes, pods, warnings]

end Snapshot

end ClusterWatch
