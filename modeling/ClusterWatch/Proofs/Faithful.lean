import ClusterWatch.Cluster
import ClusterWatch.History.Entry
import ClusterWatch.Proofs.Instant.LooseTexts
import ClusterWatch.Proofs.Kube.RoundTrip
import ClusterWatch.Proofs.Uuid
import Mathlib

namespace ClusterWatch

open Json Record

namespace Cluster

def fields (c : Cluster) : Fields :=
  [("identifier", some (.string c.identifier)), ("address", some (.string c.address)),
    ("username", c.username.map .string), ("password", c.password.map .string), ("token", c.token.map .string)]

theorem encode_eq (c : Cluster) : c.encode = .object (present c.fields) := by
  simp only [encode, ifSome_eq]
  rw [show [("identifier", Json.string c.identifier), ("address", .string c.address)] =
    present [("identifier", some (.string c.identifier)), ("address", some (.string c.address))] from rfl]
  simp only [← present_append]
  rfl

theorem codes : Codes decode encode 1 := by
  apply codes_of_fields encode_eq
  · intro c
    simp [fields, isPlain, Codes.text.all_isPlain_map]
  · intro room c _
    have distinct : (c.fields.map Prod.fst).Nodup := by simp [fields]
    have identifier : (ofFields c.fields room).required "identifier" .text = some c.identifier :=
      required_ofFields Codes.text (Nat.zero_le _) distinct rfl
    have address : (ofFields c.fields room).required "address" .text = some c.address :=
      required_ofFields Codes.text (Nat.zero_le _) distinct rfl
    have username : (ofFields c.fields room).optional "username" .text = some c.username :=
      optional_ofFields Codes.text (Nat.zero_le _) distinct rfl
    have password : (ofFields c.fields room).optional "password" .text = some c.password :=
      optional_ofFields Codes.text (Nat.zero_le _) distinct rfl
    have token : (ofFields c.fields room).optional "token" .text = some c.token :=
      optional_ofFields Codes.text (Nat.zero_le _) distinct rfl
    rw [decode, ofJson?_present (by decide) rfl]
    simp [identifier, address, username, password, token]

end Cluster

namespace History.Entry

def fields (e : Entry) : Fields :=
  [("UUID", some (.string e.id.text)), ("ClusterIdentifier", some (.string e.cluster)),
    ("EntryTime", some (.string e.time.text))]

theorem encode_eq (e : Entry) : e.encode = .object (present e.fields) :=
  rfl

theorem codes : Codes decode encode 1 := by
  apply codes_of_fields encode_eq
  · intro e
    simp [fields, isPlain]
  · intro room e _
    have distinct : (e.fields.map Prod.fst).Nodup := by simp [fields]
    have id : (ofFields e.fields room).required "UUID" .text = some e.id.text :=
      required_ofFields Codes.text (Nat.zero_le _) distinct rfl
    have cluster : (ofFields e.fields room).required "ClusterIdentifier" .text = some e.cluster :=
      required_ofFields Codes.text (Nat.zero_le _) distinct rfl
    have time : (ofFields e.fields room).required "EntryTime" .text = some e.time.text :=
      required_ofFields Codes.text (Nat.zero_le _) distinct rfl
    rw [decode, ofJson?_present (by decide) rfl]
    simp [id, cluster, time, Uuid.ofText?_text, Instant.ofLooseText?_text]

end History.Entry

open Kube in
theorem decoded_data_are_kept :
    IsFaithful Pod.decode Pod.encode ∧ IsFaithful Node.decode Node.encode ∧ IsFaithful Event.decode Event.encode ∧
      IsFaithful (Listing.decode Pod.decode) (Listing.encode Pod.encode) ∧
      IsFaithful (Listing.decode Node.decode) (Listing.encode Node.encode) ∧
      IsFaithful (Listing.decode Event.decode) (Listing.encode Event.encode) ∧
      IsFaithful Cluster.decode Cluster.encode ∧ IsFaithful History.Entry.decode History.Entry.encode := by
  refine ⟨?pods, ?nodes, ?events, ?podListings, ?nodeListings, ?eventListings, ?clusters, ?entries⟩
  case pods => exact Pod.recodes.isFaithful (by decide)
  case nodes => exact Node.codes.recodes.isFaithful (by decide)
  case events => exact Event.codes.recodes.isFaithful (by decide)
  case podListings => exact (Listing.recodes Pod.recodes).isFaithful (by decide)
  case nodeListings => exact (Listing.recodes Node.codes.recodes).isFaithful (by decide)
  case eventListings => exact (Listing.recodes Event.codes.recodes).isFaithful (by decide)
  case clusters => exact Cluster.codes.recodes.isFaithful (by decide)
  case entries => exact History.Entry.codes.recodes.isFaithful (by decide)

section Spellings

def oddPodText : String :=
  "\x7b\"kind\": \"Pod\", \"status\": [\"Running\", [], [[\"main\", true, 1, " ++
    "\x7b\"running\": \x7b\"b\": null, \"a\": 1, \"a\": 2\x7d, \"waiting\": null\x7d]]]\x7d"

def oddPodJson : Json :=
  .object [("kind", .string "Pod"), ("status", .array [.string "Running", .array [],
    .array [.array [.string "main", .bool true, .integer 1,
      .object [("running", .object [("b", .null), ("a", .integer 1), ("a", .integer 2)]), ("waiting", .null)]]]])]

def oddPhase : Kube.ContainerPhase where
  running := some (.object [("a", .integer 2), ("b", .null)])

def oddPod : Kube.Pod where
  tag := { kind := "Pod" }
  status := { phase := "Running", containers := [⟨"main", true, 1, oddPhase⟩] }

def oddEntryText : String :=
  "[\"0BCAF5DF8117440C96F22F5499054299\", \"prod\", \"+12016-12-31 23:59:60.5+01:00\"]"

def oddEntryJson : Json :=
  .array [.string "0BCAF5DF8117440C96F22F5499054299", .string "prod", .string "+12016-12-31 23:59:60.5+01:00"]

theorem read?_oddPodText : read? oddPodText = some oddPodJson := by cbv

theorem decode_oddPodJson : Kube.Pod.decode textRoom oddPodJson = some oddPod := by cbv

theorem read?_oddEntryText : read? oddEntryText = some oddEntryJson := by cbv

theorem odd_spellings_are_kept :
    (read? oddPod.encode.print).bind (Kube.Pod.decode textRoom) = some oddPod ∧
      ∃ e, e.time.text = "+12016-12-31T22:59:60.500Z" ∧
        (read? e.encode.print).bind (History.Entry.decode textRoom) = some e := by
  obtain ⟨pods, -, -, -, -, -, -, entries⟩ := decoded_data_are_kept
  have decoded : (History.Entry.decode textRoom oddEntryJson).map (·.time.text) =
      some "+12016-12-31T22:59:60.500Z" := by decide +kernel
  obtain ⟨e, decoded, time⟩ := Option.map_eq_some_iff.1 decoded
  exact ⟨pods oddPodText oddPodJson oddPod read?_oddPodText (by decide +kernel) decode_oddPodJson, e, time,
    entries oddEntryText oddEntryJson e read?_oddEntryText (by decide +kernel) decoded⟩

end Spellings

end ClusterWatch
