import ClusterWatch.Kube.Event
import ClusterWatch.Kube.Node

namespace ClusterWatch.Kube

open Json

structure Listing (α : Type) where
  tag : Tag := {}
  items : List α := []
  deriving Repr, Inhabited

namespace Listing

variable {α : Type}

def encode (item : α → Json) (l : Listing α) : Json :=
  .object (l.tag.encode ++ [("items", ofList item l.items)])

def decode (item : Decoder α) : Decoder (Listing α) := fun room j => do
  let r ← Record.ofOpenJson? (Tag.shape ++ [["items"]]) room j
  return { tag := ← Tag.ofRecord r, items := ← r.list "items" item }

end Listing

def decodeVersion : Decoder String := fun room j => do
  let r ← Record.ofJson? [["gitVersion"]] room j
  r.text "gitVersion"

end ClusterWatch.Kube
