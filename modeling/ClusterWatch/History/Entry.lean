import ClusterWatch.Instant.Reader
import ClusterWatch.Snapshot.Codec
import ClusterWatch.Uuid

namespace ClusterWatch.History

open Json

structure Entry where
  id : Uuid
  cluster : String
  time : Instant
  deriving Repr, DecidableEq

namespace Entry

def names : Uuid := ⟨0x0bcaf5df8117440c96f22f5499054299#128⟩

def name (cluster : String) (time : Instant) : String :=
  cluster ++ time.text

def idOf (cluster : String) (time : Instant) : Uuid :=
  Uuid.ofName names (name cluster time)

def shape : Record.Shape := [["UUID"], ["ClusterIdentifier"], ["EntryTime"]]

def encode (e : Entry) : Json :=
  .object [("UUID", .string e.id.text), ("ClusterIdentifier", .string e.cluster),
    ("EntryTime", .string e.time.text)]

def decode : Decoder Entry := fun room j => do
  let r ← Record.ofJson? shape room j
  return {
    id := ← Uuid.ofText? (← r.required "UUID" .text)
    cluster := ← r.required "ClusterIdentifier" .text
    time := ← Instant.ofLooseText? (← r.required "EntryTime" .text) }

end Entry

end ClusterWatch.History
