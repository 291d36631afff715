import ClusterWatch.Cluster
import ClusterWatch.Net.Dialogue
import ClusterWatch.Text.Blank

namespace ClusterWatch

open Net

structure Roster where
  clusters : Dialogue (List Cluster)
  lookup : String → Dialogue Cluster

namespace Roster

def unknown (identifier : String) : Failure :=
  .notFound ("cluster " ++ identifier)

def pick (clusters : List Cluster) (identifier : String) : Except Failure Cluster :=
  match clusters.find? fun c => c.identifier = identifier with
  | some c => .ok c
  | none => .error (unknown identifier)

structure Fixed where
  clusters : List Cluster
  named : ∀ c ∈ clusters, c.identifier ≠ ""
  distinct : (clusters.map Cluster.identifier).Nodup

def firstFault (seen : List String) : List Cluster → Option Failure
  | [] => none
  | c :: rest =>
    if c.identifier = "" then
      some (.configuration ("cluster at " ++ c.address ++ " has no identifier"))
    else if c.identifier ∈ seen then
      some (.configuration ("duplicate cluster identifier " ++ Text.quoted c.identifier))
    else firstFault (c.identifier :: seen) rest

theorem named_and_distinct_of_firstFault :
    ∀ {seen : List String} {clusters : List Cluster}, firstFault seen clusters = none →
      (∀ c ∈ clusters, c.identifier ≠ "" ∧ c.identifier ∉ seen) ∧
        (clusters.map Cluster.identifier).Nodup
  | _, [], _ => by simp
  | seen, c :: rest, h => by
    unfold firstFault at h
    split at h
    · simp at h
    · rename_i named
      split at h
      · simp at h
      · rename_i fresh
        obtain ⟨others, distinct⟩ := named_and_distinct_of_firstFault h
        refine ⟨fun d hd => ?_, ?_⟩
        · rcases List.mem_cons.1 hd with rfl | hd
          · exact ⟨named, fresh⟩
          · exact ⟨(others d hd).1, fun seen => (others d hd).2 (by simp [seen])⟩
        · refine List.nodup_cons.2 ⟨fun member => ?_, distinct⟩
          obtain ⟨d, hd, same⟩ := List.mem_map.1 member
          exact (others d hd).2 (by simp [same])

def Fixed.ofList (clusters : List Cluster) : Except Failure Fixed :=
  match h : firstFault [] clusters with
  | some f => .error f
  | none =>
    have sound := named_and_distinct_of_firstFault h
    .ok ⟨clusters, fun c hc => (sound.1 c hc).1, sound.2⟩

def ofFixed (l : Fixed) : Roster where
  clusters := pure l.clusters
  lookup identifier := .ofExcept (pick l.clusters identifier)

/-- Colons in the name of a host are those of an address, which stands in brackets. -/
def bracketed (host : String) : String :=
  if host.contains ':' && !host.startsWith "[" then "[" ++ host ++ "]" else host

def own (host port token : String) : Cluster where
  identifier := "k8s"
  address := "https://" ++ bracketed host ++ ":" ++ port
  token := some (String.ofList (Text.trim token.toList))

def ofOwn (c : Cluster) : Roster where
  clusters := pure [c]
  lookup identifier := .ofExcept (pick [c] identifier)

end Roster

end ClusterWatch
