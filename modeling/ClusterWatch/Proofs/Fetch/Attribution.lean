import ClusterWatch.Proofs.Fetch.Isolation
import ClusterWatch.Proofs.Fetch.Schedules
import Mathlib.Data.List.Count

namespace ClusterWatch.Fetch

open Kube

section Spec

variable (plane : ControlPlane) (limit : Duration) (nodes : List Node)

/-- What events are asked for: the nodes whose pods are told, and these pods, as far as they are not ready. -/
inductive Needs : Target → Prop where
  | node {n : Node} (listed : n ∈ answering plane limit nodes) (unready : nodeReadiness n = .notReady) :
      Needs (.ofNode n)
  | pod {n : Node} {p : Pod} (listed : n ∈ answering plane limit nodes) (bound : p ∈ boundPods plane limit n)
      (unready : podIsReady p = false) : Needs (.ofPod p)

def isAboutEvents : Failure → Bool
  | .partialFetch entity _ => "events of ".toList.isPrefixOf entity.toList
  | _ => false

def IsLostLookup (target : Target) (f : Failure) : Prop :=
  ∃ reason, ((plane.events target).bounded limit).ending.result = .error reason ∧
    f = .partialFetch ("events of " ++ target.display) reason

structure Attributes (questions : List Question) (s : Snapshot) : Prop where
  once : ∀ t, Needs plane limit nodes t → questions.count (.events t) = 1
  only : ∀ t, .events t ∈ questions → Needs plane limit nodes t
  shownNodes : ∀ status ∈ s.nodes,
    status.events = eventsUnless plane limit (status.readiness = .ready) (.node status.name) ∧
      (status.readiness = .notReady → Needs plane limit nodes (.node status.name))
  shownPods : s.pods.values.Perm (((answering plane limit nodes).flatMap (boundPods plane limit)).map fun p =>
    podStatus p (eventsUnless plane limit (podIsReady p) (.ofPod p)))
  readOff : ∃ statuses, s.pods.values.Perm statuses ∧
    List.Forall₂
      (fun p status => ShowsPod p status ∧ status.events = eventsUnless plane limit status.ready (.ofPod p))
      ((answering plane limit nodes).flatMap (boundPods plane limit)) statuses
  warned : ∃ (unanswered : List Target) (fs : List Failure), unanswered.Nodup ∧
    (∀ t, t ∈ unanswered ↔ Needs plane limit nodes t ∧ told limit (plane.events t) = none) ∧
    s.warnings = fs.map Failure.message ∧
    List.Forall₂ (IsLostLookup plane limit) unanswered (fs.filter isAboutEvents)

end Spec

section Targets

variable {plane : ControlPlane} {limit : Duration} {nodes : List Node}

theorem needs_iff (t : Target) : Needs plane limit nodes t ↔ t ∈ wanted plane limit nodes := by
  rw [mem_wanted_iff]
  constructor
  · rintro (⟨listed, unready⟩ | ⟨listed, bound, unready⟩)
    · exact ⟨_, listed, Or.inl ⟨unready, rfl⟩⟩
    · exact ⟨_, listed, Or.inr ⟨_, bound, unready, rfl⟩⟩
  · rintro ⟨n, listed, ⟨unready, rfl⟩ | ⟨p, bound, unready, rfl⟩⟩
    · exact .node listed unready
    · exact .pod listed bound unready

theorem targetsOf_subset {n : NodePods} {t : Target} (member : t ∈ targetsOf n) :
    t = .ofNode n.node ∨ t ∈ n.pods.map Target.ofPod := by
  rcases List.mem_append.1 member with node | pod
  · split at node
    · exact Or.inl (List.mem_singleton.1 node)
    · exact absurd node List.not_mem_nil
  · exact Or.inr (List.map_subset _ (List.filter_subset_self _) pod)

theorem nodup_targetsOf {n : NodePods} (pods : (n.pods.map Target.ofPod).Nodup) : (targetsOf n).Nodup := by
  apply List.nodup_append.2
  refine ⟨?_, pods.sublist (List.filter_sublist.map _), ?_⟩
  · split
    · exact List.nodup_singleton _
    · exact List.nodup_nil
  · rintro t node _ pod rfl
    split at node
    · rw [List.mem_singleton.1 node] at pod
      exact ofNode_not_mem_pods _ _ (List.map_subset _ (List.filter_subset_self _) pod)
    · exact absurd node List.not_mem_nil

theorem nodup_wanted (apart : TellsApart plane limit nodes) : (wanted plane limit nodes).Nodup := by
  have pods := apart.targets
  rw [List.map_flatMap] at pods
  obtain ⟨own, others⟩ := List.nodup_flatMap.1 pods
  have names : (answering plane limit nodes).Pairwise fun n n' => n.metadata.name ≠ n'.metadata.name :=
    List.pairwise_map.1 (apart.names.sublist (List.filter_sublist.map _))
  apply List.nodup_flatMap.2
  refine ⟨fun n listed => nodup_targetsOf (own n listed), ?_⟩
  apply (names.and others).imp
  rintro n n' ⟨differ, disjoint⟩ t here there
  rcases targetsOf_subset here with rfl | here <;> rcases targetsOf_subset there with same | there
  · exact differ (Target.node.inj same)
  · exact ofNode_not_mem_pods _ _ there
  · rw [same] at here
    exact ofNode_not_mem_pods _ _ here
  · exact disjoint here there

end Targets

section Questions

variable {connector : Connector} {limits : Limits} {limit : Duration} {cluster : Cluster} {plane : ControlPlane}
  {list : Listing Node} {s : Snapshot}

theorem questions_of_fetch (reached : (connector cluster).ending = .answer plane)
    (listing : plane.nodes.ending = .answer list)
    (taken : (fetchSnapshot connector limits cluster).result = .ok s) :
    (fetchSnapshot connector limits cluster).questions = .version :: .nodes ::
      ((reported list.items).map fun n => Question.pods n.metadata.name) ++
        (wanted plane limits.call list.items).map Question.events := by
  obtain ⟨same, _, _, first, second⟩ := exists_answers_of_fetch taken
  cases Ending.answer.inj ((answer_of_bounded first).symm.trans reached)
  cases Ending.answer.inj ((answer_of_bounded second).symm.trans listing)
  rw [same, course_of_answers first second, Course.questions, List.map_append, questions_askAll, ← targets_listed]
  rfl

end Questions

section Answers

variable {plane : ControlPlane} {limit : Duration} {nodes : List Node}

theorem count_events (pods : List Node) (asked : List Target) (t : Target) :
    (Question.version :: .nodes :: (pods.map fun n => Question.pods n.metadata.name) ++
      asked.map Question.events).count (.events t) = asked.count t := by
  have others : (pods.map fun n => Question.pods n.metadata.name).count (.events t) = 0 := by
    apply List.count_eq_zero_of_not_mem
    simp
  have own : (asked.map Question.events).count (.events t) = asked.count t :=
    List.count_map_of_injective _ _ (fun _ _ => Question.events.inj) _
  have first : Question.version ≠ .events t := nofun
  have second : Question.nodes ≠ .events t := nofun
  rw [List.cons_append, List.cons_append, List.count_cons_of_ne first, List.count_cons_of_ne second,
    List.count_append, others, own, Nat.zero_add]

theorem exists_settled_of_shown (apart : TellsApart plane limit nodes) {status : NodeStatus}
    (shown : status ∈ (snapshotOf plane limit nodes).nodes) :
    ∃ n ∈ answering plane limit nodes, status.name = n.metadata.name ∧ status.readiness = nodeReadiness n ∧
      status.events = eventsUnless plane limit (nodeReadiness n = .ready) (.ofNode n) := by
  rw [snapshotOf_eq] at shown
  have unsorted := (List.mergeSort_perm _ _).mem_iff.1 shown
  rw [dealt_eq_map_settled apart] at unsorted
  obtain ⟨d, member, built⟩ := List.mem_filterMap.1 unsorted
  obtain ⟨n, listed, rfl⟩ := List.mem_map.1 member
  let events := eventsUnless plane limit (nodeReadiness n = .ready) (.ofNode n)
  have whole : nodeStatus n (boundPods plane limit n) events = .ok (some status) := by
    cases outcome : nodeStatus n (boundPods plane limit n) events with
    | error f => simp [Dealt.status?, settled, events, outcome] at built
    | ok shown =>
      simp only [Dealt.status?, settled, events, outcome] at built
      rw [built]
  exact ⟨n, listed, shown_of_nodeStatus whole⟩

theorem values_of_settled (apart : TellsApart plane limit nodes) : (snapshotOf plane limit nodes).pods.values.Perm
    (((answering plane limit nodes).flatMap (boundPods plane limit)).map fun p =>
      podStatus p (eventsUnless plane limit (podIsReady p) (.ofPod p))) := by
  have held := values_snapshotOf plane limit nodes
  rw [dealt_eq_map_settled apart, List.flatMap_map] at held
  rw [List.map_flatMap]
  simp only [settled, Dealt.podStatuses, List.map_map] at held
  exact held

theorem isAboutEvents_lookup (x reason : String) : isAboutEvents (.partialFetch ("events of " ++ x) reason) := by
  simp [isAboutEvents]

theorem isAboutEvents_listing (x reason : String) :
    isAboutEvents (.partialFetch ("pods of node " ++ x) reason) = false := by
  simp [isAboutEvents, List.isPrefixOf]

theorem isLostLookup_of_eventsOf {t : Target} {f : Failure} (lost : eventsOf plane limit t = .error f) :
    IsLostLookup plane limit t f := by
  rw [eventsOf_eq_lookupFor] at lost
  cases result : ((plane.events t).bounded limit).ending.result with
  | ok list =>
    rw [result] at lost
    cases lost
  | error reason =>
    rw [result] at lost
    cases lost
    exact ⟨reason, result, rfl⟩

theorem lost_lookups : List.Forall₂ (IsLostLookup plane limit)
    ((wanted plane limit nodes).filter fun t => (told limit (plane.events t)).isNone)
    (failures (lookups plane limit nodes)) := by
  have each := failures_map (R := fun t f => eventsOf plane limit t = .error f) (eventsOf_of_told plane limit)
    (fun t missing => (eventsOf_of_not_told plane limit t missing).imp fun _ lost => ⟨lost.1, lost.1⟩)
    (wanted plane limit nodes)
  rw [lookups, targets_listed]
  simp only [Option.not_isSome] at each
  exact each.imp fun _ _ => isLostLookup_of_eventsOf

theorem filter_recorded : (recorded plane limit nodes).filter isAboutEvents = failures (lookups plane limit nodes) := by
  have listings : (failures (listings plane limit nodes)).filter isAboutEvents = [] := by
    apply List.filter_eq_nil_iff.2
    intro f member
    obtain ⟨n, -, reason, rfl⟩ := exists_of_mem_forall₂ (failures_listings plane limit nodes) member
    rw [isAboutEvents_listing]
    exact Bool.false_ne_true
  have lookups : (failures (lookups plane limit nodes)).filter isAboutEvents = failures (lookups plane limit nodes) := by
    apply List.filter_eq_self.2
    intro f member
    obtain ⟨t, -, reason, rfl⟩ := exists_of_mem_forall₂ (failures_lookups plane limit nodes) member
    exact isAboutEvents_lookup _ _
  have nodes : ((dealt plane limit nodes).filterMap Dealt.failure?).filter isAboutEvents = [] := by
    apply List.filter_eq_nil_iff.2
    intro f member
    obtain ⟨n, -, reason, rfl | ⟨p, -, rfl⟩⟩ := exists_of_mem_forall₂ (shown_of_dealt plane limit nodes).2 member <;>
      exact Bool.false_ne_true
  rw [recorded, List.filter_append, List.filter_append, listings, lookups, nodes, List.nil_append, List.append_nil]

theorem attributes_of_questions (apart : TellsApart plane limit nodes) {questions : List Question}
    (asked : ∀ t, questions.count (.events t) = (wanted plane limit nodes).count t) :
    Attributes plane limit nodes questions (snapshotOf plane limit nodes) := by
  constructor
  case once =>
    intro t needed
    rw [asked, List.count_eq_one_of_mem (nodup_wanted apart) ((needs_iff t).1 needed)]
  case only =>
    intro t member
    have positive := List.count_pos_iff.2 member
    rw [asked] at positive
    exact (needs_iff t).2 (List.count_pos_iff.1 positive)
  case shownNodes =>
    intro status shown
    obtain ⟨n, listed, name, readiness, events⟩ := exists_settled_of_shown apart shown
    rw [name, readiness]
    exact ⟨events, fun unready => .node listed unready⟩
  case shownPods => exact values_of_settled apart
  case readOff =>
    refine ⟨_, values_of_settled apart, ?_⟩
    rw [List.forall₂_map_right_iff, List.forall₂_same]
    exact fun p _ => ⟨showsPod_podStatus p _, rfl⟩
  case warned =>
    refine ⟨(wanted plane limit nodes).filter fun t => (told limit (plane.events t)).isNone,
      recorded plane limit nodes, (nodup_wanted apart).filter _, ?_, ?_, ?_⟩
    · intro t
      rw [needs_iff, List.mem_filter, Option.isNone_iff_eq_none]
    · rw [snapshotOf_eq]
    · rw [filter_recorded]
      exact lost_lookups

end Answers

section Fetches

variable {connector : Connector} {limits : Limits} {cluster : Cluster} {plane : ControlPlane} {list : Listing Node}

theorem attributes_of_alike (reached : (connector cluster).ending = .answer plane)
    (listing : plane.nodes.ending = .answer list) (apart : TellsApart plane limits.call list.items) {c : Course}
    (alike : (fetchSnapshot connector limits cluster).Alike c) {s : Snapshot} (taken : c.result = .ok s) :
    Attributes plane limits.call list.items c.questions s := by
  have same : (fetchSnapshot connector limits cluster).result = .ok s := alike.result.trans taken
  obtain ⟨_, _, first, second, rfl⟩ := exists_plane_of_fetch same
  cases Ending.answer.inj (first.symm.trans reached)
  cases Ending.answer.inj (second.symm.trans listing)
  apply attributes_of_questions apart
  intro t
  rw [← alike.questions.count_eq, questions_of_fetch reached listing same, count_events]

end Fetches

def sickNode : ControlPlane :=
  let node : Node := { metadata := { name := "a" }, status := { conditions := [{ type := "Ready", status := "False" }] } }
  let pod (name : String) (conditions : List PodCondition) : Pod := {
    metadata := { name, ns := "default", uid := name }
    spec := { node := "a" }
    status := { conditions } }
  { nodes := ⟨.ofSeconds 1, .answer { items := [node] }⟩
    pods := fun _ => ⟨.ofSeconds 1, .answer {
      items := [pod "web" [{ type := "Ready", status := "True" }], pod "job" [], pod "db" []] }⟩
    events := fun target =>
      ⟨.ofSeconds (if target = .pod "default" "db" "db" then 11 else 1), .answer { items := [{ message := "lost" }] }⟩ }

end ClusterWatch.Fetch
