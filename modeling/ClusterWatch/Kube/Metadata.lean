import ClusterWatch.Json.Decoder

namespace ClusterWatch.Kube

open Json

structure Tag where
  apiVersion : String := ""
  kind : String := ""
  deriving Repr, DecidableEq, Inhabited

namespace Tag

def shape : Record.Shape := [["apiVersion"], ["kind"]]

def encode (t : Tag) : List (String × Json) :=
  unlessEmpty "apiVersion" t.apiVersion ++ unlessEmpty "kind" t.kind

def ofRecord (r : Record) : Option Tag := do
  return ⟨← r.text "apiVersion", ← r.text "kind"⟩

end Tag

structure Metadata where
  name : String := ""
  ns : String := ""
  uid : String := ""
  labels : Option (Dictionary String) := none
  annotations : Option (Dictionary String) := none
  created : Option String := none
  deriving Repr, DecidableEq, Inhabited

namespace Metadata

def shape : Record.Shape :=
  [["name"], ["namespace"], ["uid"], ["labels"], ["annotations"], ["creationTimestamp"]]

def encode (m : Metadata) : Json :=
  .object (unlessEmpty "name" m.name ++ unlessEmpty "namespace" m.ns ++ unlessEmpty "uid" m.uid ++
    ifSome "labels" (ofDictionary .string) m.labels ++
    ifSome "annotations" (ofDictionary .string) m.annotations ++
    ifSome "creationTimestamp" .string m.created)

def decode : Decoder Metadata := fun room j => do
  let r ← Record.ofJson? shape room j
  return {
    name := ← r.text "name"
    ns := ← r.text "namespace"
    uid := ← r.text "uid"
    labels := ← r.optional "labels" (.dictionary .text)
    annotations := ← r.optional "annotations" (.dictionary .text)
    created := ← r.optional "creationTimestamp" .text }

end Metadata

end ClusterWatch.Kube
