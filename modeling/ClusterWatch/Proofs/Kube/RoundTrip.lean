import ClusterWatch.Kube.Listing
import ClusterWatch.Proofs.Json.Recoding
import ClusterWatch.Proofs.Snapshot.RoundTrip

namespace ClusterWatch.Kube

open Json Record

namespace Tag

def fields (t : Tag) : Fields :=
  [("apiVersion", unlessBlank t.apiVersion), ("kind", unlessBlank t.kind)]

theorem encode_eq (t : Tag) : t.encode = present t.fields := by
  simp only [encode, unlessEmpty_eq, ← present_append]
  rfl

theorem ofRecord_ofFields (t : Tag) {more : Fields} (distinct : ((t.fields ++ more).map Prod.fst).Nodup) (room : Nat) :
    ofRecord (ofFields (t.fields ++ more) room) = some t := by
  have apiVersion : (ofFields (t.fields ++ more) room).text "apiVersion" = some t.apiVersion :=
    text_ofFields distinct rfl
  have kind : (ofFields (t.fields ++ more) room).text "kind" = some t.kind := text_ofFields distinct rfl
  simp [ofRecord, apiVersion, kind]

end Tag

namespace Container

def encodeResources (r : ResourceList × ResourceList) : Json :=
  .object [("requests", ofDictionary .string r.1), ("limits", ofDictionary .string r.2)]

def resourceFields (r : ResourceList × ResourceList) : Fields :=
  [("requests", some (ofDictionary .string r.1)), ("limits", some (ofDictionary .string r.2))]

theorem codes_resources : Codes decodeResources encodeResources 2 := by
  have written (r) : encodeResources r = .object (present (resourceFields r)) := rfl
  apply codes_of_fields written
  · intro r
    simp [resourceFields, Codes.text.dictionary.plain]
  · intro room r enough
    have distinct : ((resourceFields r).map Prod.fst).Nodup := by simp [resourceFields]
    have requests : (ofFields (resourceFields r) room).orElse "requests" (.dictionary .text) ∅ = some r.1 :=
      orElse_ofFields Codes.text.dictionary (by omega) distinct rfl
    have limits : (ofFields (resourceFields r) room).orElse "limits" (.dictionary .text) ∅ = some r.2 :=
      orElse_ofFields Codes.text.dictionary (by omega) distinct rfl
    rw [decodeResources, ofJson?_present (by decide) rfl]
    simp [requests, limits]

def fields (c : Container) : Fields :=
  [("name", some (.string c.name)), ("image", some (.string c.image)),
    ("resources", some (encodeResources (c.requests, c.limits)))]

theorem encode_eq (c : Container) : c.encode = .object (present c.fields) :=
  rfl

theorem codes : Codes decode encode 3 := by
  apply codes_of_fields encode_eq
  · intro c
    simp [fields, isPlain, codes_resources.plain]
  · intro room c enough
    have distinct : (c.fields.map Prod.fst).Nodup := by simp [fields]
    have name : (ofFields c.fields room).text "name" = some c.name :=
      orElse_ofFields Codes.text (Nat.zero_le _) distinct rfl
    have image : (ofFields c.fields room).text "image" = some c.image :=
      orElse_ofFields Codes.text (Nat.zero_le _) distinct rfl
    have resources : (ofFields c.fields room).orElse "resources" decodeResources (∅, ∅) = some (c.requests, c.limits) :=
      orElse_ofFields codes_resources (by omega) distinct rfl
    rw [decode, ofJson?_present (by decide) rfl]
    simp [name, image, resources]

end Container

namespace PodCondition

def fields (c : PodCondition) : Fields :=
  [("type", some (.string c.type)), ("status", some (.string c.status))]

theorem encode_eq (c : PodCondition) : c.encode = .object (present c.fields) :=
  rfl

theorem codes : Codes decode encode 1 := by
  apply codes_of_fields encode_eq
  · intro c
    simp [fields, isPlain]
  · intro room c _
    have distinct : (c.fields.map Prod.fst).Nodup := by simp [fields]
    have type : (ofFields c.fields room).text "type" = some c.type :=
      orElse_ofFields Codes.text (Nat.zero_le _) distinct rfl
    have status : (ofFields c.fields room).text "status" = some c.status :=
      orElse_ofFields Codes.text (Nat.zero_le _) distinct rfl
    rw [decode, ofJson?_present (by decide) rfl]
    simp [type, status]

end PodCondition

namespace PodSpec

def fields (s : PodSpec) : Fields :=
  [("nodeName", some (.string s.node)), ("containers", some (ofList Container.encode s.containers)),
    ("initContainers", some (ofList Container.encode s.initContainers))]

theorem encode_eq (s : PodSpec) : s.encode = .object (present s.fields) :=
  rfl

theorem codes : Codes decode encode 5 := by
  apply codes_of_fields encode_eq
  · intro s
    simp [fields, isPlain, Container.codes.list.plain]
  · intro room s enough
    have distinct : (s.fields.map Prod.fst).Nodup := by simp [fields]
    have node : (ofFields s.fields room).text "nodeName" = some s.node :=
      orElse_ofFields Codes.text (Nat.zero_le _) distinct rfl
    have containers : (ofFields s.fields room).list "containers" Container.decode = some s.containers :=
      orElse_ofFields Container.codes.list (by omega) distinct rfl
    have initContainers : (ofFields s.fields room).list "initContainers" Container.decode = some s.initContainers :=
      orElse_ofFields Container.codes.list (by omega) distinct rfl
    rw [decode, ofJson?_present (by decide) rfl]
    simp [node, containers, initContainers]

end PodSpec

namespace ContainerPhase

def fields (p : ContainerPhase) : Fields :=
  [("running", p.running.map id), ("waiting", p.waiting.map id), ("terminated", p.terminated.map id)]

theorem encode_eq (p : ContainerPhase) : p.encode = .object (present p.fields) := by
  simp only [encode, ifSome_eq, ← present_append]
  rfl

theorem decode_eq_some_iff {room : Nat} {j : Json} {p : ContainerPhase} : decode room j = some p ↔
    ∃ r, ofJson? [["running"], ["waiting"], ["terminated"]] room j = some r ∧
      r.optional "running" .value = some p.running ∧ r.optional "waiting" .value = some p.waiting ∧
        r.optional "terminated" .value = some p.terminated := by
  obtain ⟨running, waiting, terminated⟩ := p
  simp [decode, Option.bind_eq_some_iff]

theorem decode_encode_empty {room : Nat} (enough : 1 ≤ room) : decode room (encode {}) = some {} := by
  obtain ⟨room, rfl⟩ := Nat.exists_eq_add_of_le' enough
  rfl

theorem recodes : Recodes decode encode 1 := by
  apply recodes_of_fields encode_eq
  · intro room j p exact read
    obtain ⟨r, opened, running, waiting, terminated⟩ := decode_eq_some_iff.1 read
    have exact := (of_ofJson? opened).2 exact
    have running := plain_optional Recodes.value exact running
    have waiting := plain_optional Recodes.value exact waiting
    have terminated := plain_optional Recodes.value exact terminated
    simp only [fields, List.all_cons, running, waiting, terminated, List.all_nil, Bool.and_self]
  · intro room j p _ read
    obtain ⟨r, opened, running, waiting, terminated⟩ := decode_eq_some_iff.1 read
    obtain rfl := Nat.succ.inj (of_ofJson? opened).1
    have distinct : (p.fields.map Prod.fst).Nodup := by simp [fields]
    refine decode_eq_some_iff.2 ⟨_, ofJson?_present (by decide) rfl r.room, ?_, ?_, ?_⟩
    · exact optional_again Recodes.value (Nat.zero_le _) running distinct rfl
    · exact optional_again Recodes.value (Nat.zero_le _) waiting distinct rfl
    · exact optional_again Recodes.value (Nat.zero_le _) terminated distinct rfl

end ContainerPhase

namespace ContainerReport

def fields (c : ContainerReport) : Fields :=
  [("name", some (.string c.name)), ("ready", some (.bool c.ready)),
    ("restartCount", some (.integer c.restarts.toInt)), ("state", some c.phase.encode)]

theorem encode_eq (c : ContainerReport) : c.encode = .object (present c.fields) :=
  rfl

theorem decode_eq_some_iff {room : Nat} {j : Json} {c : ContainerReport} : decode room j = some c ↔
    ∃ r, ofJson? [["name"], ["ready"], ["restartCount"], ["state"]] room j = some r ∧
      r.text "name" = some c.name ∧ r.orElse "ready" .flag false = some c.ready ∧
        r.orElse "restartCount" .int32 0 = some c.restarts ∧
          r.orElse "state" ContainerPhase.decode {} = some c.phase := by
  obtain ⟨name, ready, restarts, phase⟩ := c
  cases ready <;> simp [decode, Option.bind_eq_some_iff]

theorem recodes : Recodes decode encode 2 := by
  apply recodes_of_fields encode_eq
  · intro room j c exact read
    obtain ⟨r, opened, -, -, -, phase⟩ := decode_eq_some_iff.1 read
    have phase := plain_orElse ContainerPhase.recodes ((of_ofJson? opened).2 exact) rfl phase
    simp [fields, isPlain, phase]
  · intro room j c enough read
    obtain ⟨r, opened, -, -, -, phase⟩ := decode_eq_some_iff.1 read
    obtain rfl := Nat.succ.inj (of_ofJson? opened).1
    have distinct : (c.fields.map Prod.fst).Nodup := by simp [fields]
    refine decode_eq_some_iff.2 ⟨_, ofJson?_present (by decide) rfl r.room, ?_, ?_, ?_, ?_⟩
    · exact orElse_ofFields Codes.text (Nat.zero_le _) distinct rfl
    · exact orElse_ofFields Codes.flag (Nat.zero_le _) distinct rfl
    · exact orElse_ofFields Codes.int32 (Nat.zero_le _) distinct rfl
    · exact orElse_again ContainerPhase.recodes enough (ContainerPhase.decode_encode_empty enough) phase distinct rfl

end ContainerReport

namespace PodReport

def fields (s : PodReport) : Fields :=
  [("phase", some (.string s.phase)), ("conditions", some (ofList PodCondition.encode s.conditions)),
    ("containerStatuses", some (ofList ContainerReport.encode s.containers))]

theorem encode_eq (s : PodReport) : s.encode = .object (present s.fields) :=
  rfl

theorem decode_eq_some_iff {room : Nat} {j : Json} {s : PodReport} : decode room j = some s ↔
    ∃ r, ofJson? [["phase"], ["conditions"], ["containerStatuses"]] room j = some r ∧ r.text "phase" = some s.phase ∧
      r.list "conditions" PodCondition.decode = some s.conditions ∧
        r.list "containerStatuses" ContainerReport.decode = some s.containers := by
  obtain ⟨phase, conditions, containers⟩ := s
  simp [decode, Option.bind_eq_some_iff]

theorem decode_encode_empty {room : Nat} (enough : 2 ≤ room) : decode room (encode {}) = some {} := by
  obtain ⟨room, rfl⟩ := Nat.exists_eq_add_of_le' enough
  rfl

theorem recodes : Recodes decode encode 4 := by
  apply recodes_of_fields encode_eq
  · intro room j s exact read
    obtain ⟨r, opened, -, -, containers⟩ := decode_eq_some_iff.1 read
    have containers := plain_list ContainerReport.recodes ((of_ofJson? opened).2 exact) containers
    simp [fields, isPlain, PodCondition.codes.list.plain, containers]
  · intro room j s enough read
    obtain ⟨r, opened, -, -, containers⟩ := decode_eq_some_iff.1 read
    obtain rfl := Nat.succ.inj (of_ofJson? opened).1
    have distinct : (s.fields.map Prod.fst).Nodup := by simp [fields]
    refine decode_eq_some_iff.2 ⟨_, ofJson?_present (by decide) rfl r.room, ?_, ?_, ?_⟩
    · exact orElse_ofFields Codes.text (Nat.zero_le _) distinct rfl
    · exact orElse_ofFields PodCondition.codes.list (by omega) distinct rfl
    · exact list_again ContainerReport.recodes (by omega) containers distinct rfl

end PodReport

namespace Pod

def fields (p : Pod) : Fields :=
  p.tag.fields ++ [("metadata", some p.metadata.encode), ("spec", some p.spec.encode), ("status", some p.status.encode)]

theorem encode_eq (p : Pod) : p.encode = .object (present p.fields) := by
  rw [encode, Tag.encode_eq, fields, present_append]
  rfl

theorem decode_eq_some_iff {room : Nat} {j : Json} {p : Pod} : decode room j = some p ↔
    ∃ r, ofOpenJson? (Tag.shape ++ [["metadata"], ["spec"], ["status"]]) room j = some r ∧
      Tag.ofRecord r = some p.tag ∧ r.orElse "metadata" Metadata.decode {} = some p.metadata ∧
        r.orElse "spec" PodSpec.decode {} = some p.spec ∧ r.orElse "status" PodReport.decode {} = some p.status := by
  obtain ⟨tag, metadata, spec, status⟩ := p
  simp [decode, Option.bind_eq_some_iff]

theorem recodes : Recodes decode encode 6 := by
  apply recodes_of_fields encode_eq
  · intro room j p exact read
    obtain ⟨r, opened, -, -, -, status⟩ := decode_eq_some_iff.1 read
    have status := plain_orElse PodReport.recodes ((of_ofOpenJson? opened).2 exact) rfl status
    simp [fields, Tag.fields, Metadata.codes.plain, PodSpec.codes.plain, status]
  · intro room j p enough read
    obtain ⟨r, opened, -, -, -, status⟩ := decode_eq_some_iff.1 read
    obtain rfl := Nat.succ.inj (of_ofOpenJson? opened).1
    have distinct : (p.fields.map Prod.fst).Nodup := by simp [fields, Tag.fields]
    refine decode_eq_some_iff.2 ⟨_, ofOpenJson?_present (by decide) rfl r.room, ?_, ?_, ?_, ?_⟩
    · exact p.tag.ofRecord_ofFields distinct r.room
    · exact orElse_ofFields Metadata.codes (by omega) distinct rfl
    · exact orElse_ofFields PodSpec.codes (by omega) distinct rfl
    · exact orElse_again PodReport.recodes (by omega) (PodReport.decode_encode_empty (by omega)) status distinct rfl

end Pod

namespace NodeReport

def fields (s : NodeReport) : Fields :=
  [("conditions", some (ofList NodeCondition.encode s.conditions)), ("capacity", some (ofDictionary .string s.capacity)),
    ("allocatable", some (ofDictionary .string s.allocatable)), ("volumesInUse", some (ofList .string s.volumesInUse))]

theorem encode_eq (s : NodeReport) : s.encode = .object (present s.fields) :=
  rfl

theorem codes : Codes decode encode 3 := by
  apply codes_of_fields encode_eq
  · intro s
    simp [fields, NodeCondition.codes.list.plain, Codes.text.dictionary.plain, Codes.text.list.plain]
  · intro room s enough
    have distinct : (s.fields.map Prod.fst).Nodup := by simp [fields]
    have conditions : (ofFields s.fields room).list "conditions" NodeCondition.decode = some s.conditions :=
      orElse_ofFields NodeCondition.codes.list (by omega) distinct rfl
    have capacity : (ofFields s.fields room).orElse "capacity" (.dictionary .text) ∅ = some s.capacity :=
      orElse_ofFields Codes.text.dictionary (by omega) distinct rfl
    have allocatable : (ofFields s.fields room).orElse "allocatable" (.dictionary .text) ∅ = some s.allocatable :=
      orElse_ofFields Codes.text.dictionary (by omega) distinct rfl
    have volumesInUse : (ofFields s.fields room).list "volumesInUse" .text = some s.volumesInUse :=
      orElse_ofFields Codes.text.list (by omega) distinct rfl
    rw [decode, ofJson?_present (by decide) rfl]
    simp [conditions, capacity, allocatable, volumesInUse]

end NodeReport

namespace Node

def fields (n : Node) : Fields :=
  n.tag.fields ++ [("metadata", some n.metadata.encode), ("status", some n.status.encode)]

theorem encode_eq (n : Node) : n.encode = .object (present n.fields) := by
  rw [encode, Tag.encode_eq, fields, present_append]
  rfl

theorem codes : Codes decode encode 4 := by
  apply codes_of_fields encode_eq
  · intro n
    simp [fields, Tag.fields, Metadata.codes.plain, NodeReport.codes.plain]
  · intro room n enough
    have distinct : (n.fields.map Prod.fst).Nodup := by simp [fields, Tag.fields]
    have tag : Tag.ofRecord (ofFields n.fields room) = some n.tag := n.tag.ofRecord_ofFields distinct room
    have metadata : (ofFields n.fields room).orElse "metadata" Metadata.decode {} = some n.metadata :=
      orElse_ofFields Metadata.codes (by omega) distinct rfl
    have status : (ofFields n.fields room).orElse "status" NodeReport.decode {} = some n.status :=
      orElse_ofFields NodeReport.codes (by omega) distinct rfl
    rw [decode, ofOpenJson?_present (by decide) rfl]
    simp [tag, metadata, status]

end Node

namespace Listing

variable {α : Type} {item : α → Json} {d : Decoder α} {depth : Nat}

def fields (item : α → Json) (l : Listing α) : Fields :=
  l.tag.fields ++ [("items", some (ofList item l.items))]

theorem encode_eq (l : Listing α) : l.encode item = .object (present (l.fields item)) := by
  rw [encode, Tag.encode_eq, fields, present_append]
  rfl

theorem decode_eq_some_iff {room : Nat} {j : Json} {l : Listing α} : decode d room j = some l ↔
    ∃ r, ofOpenJson? (Tag.shape ++ [["items"]]) room j = some r ∧ Tag.ofRecord r = some l.tag ∧
      r.list "items" d = some l.items := by
  obtain ⟨tag, items⟩ := l
  simp [decode, Option.bind_eq_some_iff]

theorem recodes (h : Recodes d item depth) : Recodes (decode d) (encode item) (depth + 2) := by
  apply recodes_of_fields encode_eq
  · intro room j l exact read
    obtain ⟨r, opened, -, items⟩ := decode_eq_some_iff.1 read
    have items := plain_list h ((of_ofOpenJson? opened).2 exact) items
    simp [fields, Tag.fields, items]
  · intro room j l enough read
    obtain ⟨r, opened, -, items⟩ := decode_eq_some_iff.1 read
    obtain rfl := Nat.succ.inj (of_ofOpenJson? opened).1
    have distinct : ((l.fields item).map Prod.fst).Nodup := by simp [fields, Tag.fields]
    refine decode_eq_some_iff.2 ⟨_, ofOpenJson?_present (by decide) rfl r.room, ?_, ?_⟩
    · exact l.tag.ofRecord_ofFields distinct r.room
    · exact list_again h enough items distinct rfl

end Listing

end ClusterWatch.Kube
