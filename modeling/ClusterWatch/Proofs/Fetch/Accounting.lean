import ClusterWatch.Proofs.Fetch.Dealing
import ClusterWatch.Proofs.Fetch.Measuring
import ClusterWatch.Proofs.Sorting
import Mathlib.Data.List.Forall2

namespace ClusterWatch.Fetch

open Kube

def told {α : Type} (limit : Duration) (c : Call (Listing α)) : Option (List α) :=
  match c.ending with
  | .answer list => if c.delay ≤ limit then some list.items else none
  | .fault _ => none
  | .crash _ => none

theorem result_of_told {α : Type} {limit : Duration} {c : Call (Listing α)} {items : List α}
    (given : told limit c = some items) :
    ∃ list, (c.bounded limit).ending.result = .ok list ∧ list.items = items := by
  unfold told at given
  cases ending : c.ending with
  | answer list =>
    rw [ending] at given
    by_cases inTime : c.delay ≤ limit
    · rw [Call.bounded_of_le inTime, ending]
      simp only [inTime, if_true, Option.some.injEq] at given
      exact ⟨list, rfl, given⟩
    · simp [inTime] at given
  | fault f => simp [ending] at given
  | crash message => simp [ending] at given

theorem result_of_not_told {α : Type} {limit : Duration} {c : Call (Listing α)} (missing : told limit c = none) :
    ∃ reason, (c.bounded limit).ending.result = .error reason := by
  unfold told at missing
  by_cases inTime : c.delay ≤ limit
  · rw [Call.bounded_of_le inTime]
    cases ending : c.ending with
    | answer list => simp [ending, inTime] at missing
    | fault f => exact ⟨f.message, rfl⟩
    | crash message => exact ⟨crashText message, rfl⟩
  · rw [Call.bounded, if_neg inTime]
    exact ⟨_, rfl⟩

section Spec

variable (plane : ControlPlane) (limit : Duration)

def answers (n : Node) : Bool :=
  (told limit (plane.pods n.metadata.name)).isSome

def boundPods (n : Node) : List Pod :=
  ((told limit (plane.pods n.metadata.name)).getD []).filter fun p => p.spec.node = n.metadata.name

theorem node_of_mem_boundPods {plane : ControlPlane} {limit : Duration} {n : Node} {p : Pod}
    (bound : p ∈ boundPods plane limit n) : p.spec.node = n.metadata.name := by
  simpa using (List.mem_filter.1 bound).2

def isSound (n : Node) : Bool :=
  n.isMeasured && (boundPods plane limit n).all Pod.isMeasured

def hasReport (n : Node) : Bool :=
  !n.status.conditions.isEmpty

def AreEventsOf (target : Target) (events : List Event) : Prop :=
  events = [] ∨ told limit (plane.events target) = some events

def answering (nodes : List Node) : List Node :=
  nodes.filter fun n => hasReport n && answers plane limit n

def wanted (nodes : List Node) : List Target :=
  (answering plane limit nodes).flatMap fun n => targetsOf ⟨n, boundPods plane limit n⟩

structure ShowsPod (p : Pod) (status : PodStatus) : Prop where
  ns : status.ns = p.metadata.ns
  name : status.name = p.metadata.name
  node : status.node = p.spec.node
  phase : status.phase = p.status.phase
  ready : status.ready = true ↔ ∃ c ∈ p.status.conditions, c.type = "Ready" ∧ c.status = "True"
  containers : status.containers.map ContainerStatus.name = p.spec.containers.map Container.name

/-- A snapshot accounts for the nodes that were listed: it shows those that can be added up, holds the pods of all whose
pods were told, and has a warning for each failure. -/
structure Accounts (nodes : List Node) (s : Snapshot) : Prop where
  shown : ∃ statuses, s.nodes.Perm statuses ∧
    List.Forall₂
      (fun n status => nodeStatus n (boundPods plane limit n) status.events = .ok (some status) ∧
        AreEventsOf plane limit (.ofNode n) status.events)
      (nodes.filter fun n => hasReport n && answers plane limit n && isSound plane limit n) statuses
  held : ∃ statuses, s.pods.values.Perm statuses ∧
    List.Forall₂
      (fun p status => podStatus p status.events = status ∧ ShowsPod p status ∧
        AreEventsOf plane limit (.ofPod p) status.events)
      ((answering plane limit nodes).flatMap (boundPods plane limit)) statuses
  filed : s.pods.IsFiled PodStatus.ns
  nodesSorted : s.nodes.Pairwise fun x y => x.name ≤ y.name
  podsSorted : ∀ e ∈ s.pods.entries, e.2.Pairwise fun x y => x.name ≤ y.name
  warned : ∃ ofPods ofEvents ofNodes, s.warnings = (ofPods ++ ofEvents ++ ofNodes).map Failure.message ∧
    List.Forall₂ (fun n f => ∃ reason, f = .partialFetch ("pods of node " ++ n.metadata.name) reason)
      (nodes.filter fun n => hasReport n && !answers plane limit n) ofPods ∧
    List.Forall₂ (fun t f => ∃ reason, f = .partialFetch ("events of " ++ t.display) reason)
      ((wanted plane limit nodes).filter fun t => (told limit (plane.events t)).isNone) ofEvents ∧
    List.Forall₂ (fun n f => IsAggregationOf n (boundPods plane limit n) f)
      (nodes.filter fun n => hasReport n && answers plane limit n && !isSound plane limit n) ofNodes

end Spec

theorem showsPod_podStatus (p : Pod) (events : List Event) : ShowsPod p (podStatus p events) where
  ns := rfl
  name := rfl
  node := rfl
  phase := rfl
  ready := by simp [podStatus, podIsReady, isReadyCondition]
  containers := by
    simp only [podStatus, List.map_map]
    rfl

theorem successes_map {ε α β : Type} {f : α → Except ε β} {good : α → Bool} {g : α → β}
    (succeeds : ∀ a, good a → f a = .ok (g a)) (fails : ∀ a, good a = false → ∃ e, f a = .error e)
    (items : List α) : successes (items.map f) = (items.filter good).map g := by
  induction items with
  | nil => rfl
  | cons a items ih =>
    cases which : good a with
    | true =>
      rw [List.filter_cons_of_pos which, List.map_cons, List.map_cons, ← ih, succeeds a which]
      rfl
    | false =>
      obtain ⟨e, failed⟩ := fails a which
      rw [List.filter_cons_of_neg (by simp [which]), List.map_cons, ← ih, failed]
      rfl

theorem failures_map {ε α β : Type} {f : α → Except ε β} {good : α → Bool} {g : α → β} {R : α → ε → Prop}
    (succeeds : ∀ a, good a → f a = .ok (g a)) (fails : ∀ a, good a = false → ∃ e, f a = .error e ∧ R a e)
    (items : List α) : List.Forall₂ R (items.filter fun a => !good a) (failures (items.map f)) := by
  induction items with
  | nil => exact .nil
  | cons a items ih =>
    cases which : good a with
    | true =>
      rw [List.filter_cons_of_neg (by simp [which]), List.map_cons, succeeds a which]
      exact ih
    | false =>
      obtain ⟨e, failed, related⟩ := fails a which
      rw [List.filter_cons_of_pos (by simp [which]), List.map_cons, failed]
      exact .cons related ih

section Stages

variable (plane : ControlPlane) (limit : Duration)

theorem podsOf_of_answers (n : Node) (given : answers plane limit n) :
    podsOf plane limit n = .ok ⟨n, boundPods plane limit n⟩ := by
  obtain ⟨items, given⟩ := Option.isSome_iff_exists.1 given
  obtain ⟨list, result, same⟩ := result_of_told given
  simp only [podsOf, result, boundPods, given, Option.getD_some, same]

theorem podsOf_of_not_answers (n : Node) (missing : answers plane limit n = false) :
    ∃ f, podsOf plane limit n = .error f ∧
      ∃ reason, f = .partialFetch ("pods of node " ++ n.metadata.name) reason := by
  obtain ⟨reason, result⟩ := result_of_not_told (Option.not_isSome_iff_eq_none.1 (by simpa [answers] using missing))
  refine ⟨_, ?_, reason, rfl⟩
  simp only [podsOf, result]

theorem eventsOf_of_told (t : Target) (given : (told limit (plane.events t)).isSome) :
    eventsOf plane limit t = .ok (t, (told limit (plane.events t)).getD []) := by
  obtain ⟨items, given⟩ := Option.isSome_iff_exists.1 given
  obtain ⟨list, result, same⟩ := result_of_told given
  simp only [eventsOf, result, given, Option.getD_some, same]

theorem eventsOf_of_not_told (t : Target) (missing : (told limit (plane.events t)).isSome = false) :
    ∃ f, eventsOf plane limit t = .error f ∧ ∃ reason, f = .partialFetch ("events of " ++ t.display) reason := by
  obtain ⟨reason, result⟩ := result_of_not_told (Option.not_isSome_iff_eq_none.1 (by simpa using missing))
  refine ⟨_, ?_, reason, rfl⟩
  simp only [eventsOf, result]

variable (nodes : List Node)

theorem listed_eq : listed plane limit nodes =
    (answering plane limit nodes).map fun n => ⟨n, boundPods plane limit n⟩ := by
  have each := successes_map (podsOf_of_answers plane limit)
    (fun n missing => (podsOf_of_not_answers plane limit n missing).imp fun _ => And.left) (reported nodes)
  rw [listed, listings, each, reported, List.filter_filter, answering]
  simp only [hasReport, Bool.and_comm]

theorem targets_listed : targets (listed plane limit nodes) = wanted plane limit nodes := by
  rw [listed_eq, targets, List.flatMap_map]
  rfl

theorem failures_listings :
    List.Forall₂ (fun n f => ∃ reason, f = .partialFetch ("pods of node " ++ n.metadata.name) reason)
      (nodes.filter fun n => hasReport n && !answers plane limit n) (failures (listings plane limit nodes)) := by
  have each := failures_map (podsOf_of_answers plane limit) (podsOf_of_not_answers plane limit) (reported nodes)
  rw [reported, List.filter_filter] at each
  simp only [hasReport, Bool.and_comm] at each ⊢
  exact each

theorem failures_lookups :
    List.Forall₂ (fun t f => ∃ reason, f = .partialFetch ("events of " ++ t.display) reason)
      ((wanted plane limit nodes).filter fun t => (told limit (plane.events t)).isNone)
      (failures (lookups plane limit nodes)) := by
  have each := failures_map (eventsOf_of_told plane limit) (eventsOf_of_not_told plane limit)
    (wanted plane limit nodes)
  rw [lookups, targets_listed]
  simpa only [Option.not_isSome] using each

def soundPods (n : NodePods) : Bool :=
  n.node.isMeasured && n.pods.all Pod.isMeasured

theorem statuses_of_dealt {ds : List Dealt} (reported : ∀ d ∈ ds, hasReport d.node.node)
    (own : ∀ d ∈ ds, AreEventsOf plane limit (.ofNode d.node.node) d.events) :
    List.Forall₂ (fun n status => nodeStatus n.node n.pods status.events = .ok (some status) ∧
        AreEventsOf plane limit (.ofNode n.node) status.events)
      ((ds.map Dealt.node).filter soundPods) (ds.filterMap Dealt.status?) ∧
    List.Forall₂ (fun n f => IsAggregationOf n.node n.pods f)
      ((ds.map Dealt.node).filter fun n => !soundPods n) (ds.filterMap Dealt.failure?) := by
  induction ds with
  | nil => exact ⟨.nil, .nil⟩
  | cons d ds ih =>
    obtain ⟨built, failed⟩ := ih (fun d member => reported d (List.mem_cons_of_mem _ member))
      (fun d member => own d (List.mem_cons_of_mem _ member))
    have first : d.node.node.status.conditions.isEmpty = false := by
      simpa [hasReport] using reported d List.mem_cons_self
    rcases nodeStatus_cases first d.node.pods d.events with
      ⟨sound, status, shown, -, -, events⟩ | ⟨unsound, f, refused, about⟩
    · have some : d.status? = some status := by
        simp only [Dealt.status?, shown]
      have none : d.failure? = none := by
        simp only [Dealt.failure?, shown]
      rw [List.map_cons, List.filterMap_cons_some some, List.filterMap_cons_none none,
        List.filter_cons_of_pos (p := soundPods) sound,
        List.filter_cons_of_neg (p := fun n => !soundPods n) (by simp [soundPods, sound])]
      refine ⟨.cons ?_ built, failed⟩
      rw [events]
      exact ⟨shown, own d List.mem_cons_self⟩
    · have none : d.status? = none := by
        simp only [Dealt.status?, refused]
      have some : d.failure? = some f := by
        simp only [Dealt.failure?, refused]
      rw [List.map_cons, List.filterMap_cons_none none, List.filterMap_cons_some some,
        List.filter_cons_of_neg (p := soundPods) (by simp [soundPods, unsound]),
        List.filter_cons_of_pos (p := fun n => !soundPods n) (by simp [soundPods, unsound])]
      exact ⟨built, .cons about failed⟩

theorem areEventsOf_give {left : Hand} (inside : left ⊆ (successes (lookups plane limit nodes)).reverse)
    (target : Target) : AreEventsOf plane limit target (left.give target) := by
  rw [Hand.give]
  cases found : left.lookup target with
  | none => exact Or.inl rfl
  | some events =>
    have member := List.mem_reverse.1 (inside (Keyed.mem_of_lookup found))
    have each := successes_map (eventsOf_of_told plane limit)
      (fun t missing => (eventsOf_of_not_told plane limit t missing).imp fun _ => And.left)
      (wanted plane limit nodes)
    rw [lookups, targets_listed, each] at member
    obtain ⟨t, inTime, same⟩ := List.mem_map.1 member
    obtain ⟨items, given⟩ := Option.isSome_iff_exists.1 (List.mem_filter.1 inTime).2
    cases same
    apply Or.inr
    simp only [given, Option.getD_some]

theorem map_node_dealt : (dealt plane limit nodes).map Dealt.node = listed plane limit nodes :=
  map_node_deal _ _

theorem exists_answering_of_mem_dealt {d : Dealt} (member : d ∈ dealt plane limit nodes) :
    ∃ n ∈ answering plane limit nodes, d.node = ⟨n, boundPods plane limit n⟩ := by
  have there : d.node ∈ listed plane limit nodes := by
    rw [← map_node_dealt]
    exact List.mem_map_of_mem member
  rw [listed_eq] at there
  obtain ⟨n, inside, same⟩ := List.mem_map.1 there
  exact ⟨n, inside, same.symm⟩

theorem hasReport_of_mem_dealt {d : Dealt} (member : d ∈ dealt plane limit nodes) : hasReport d.node.node := by
  obtain ⟨n, inside, same⟩ := exists_answering_of_mem_dealt plane limit nodes member
  rw [same]
  exact (Bool.and_eq_true_iff.1 (List.mem_filter.1 inside).2).1

theorem areEventsOf_of_mem_dealt {d : Dealt} (member : d ∈ dealt plane limit nodes) :
    AreEventsOf plane limit (.ofNode d.node.node) d.events ∧
      ∀ p ∈ d.pods, AreEventsOf plane limit (.ofPod p.1) p.2 := by
  obtain ⟨left, inside, same⟩ := exists_hand_of_mem_deal member
  rw [same]
  constructor
  · exact areEventsOf_give plane limit nodes inside _
  · intro p turn
    obtain ⟨less, part, given⟩ := exists_hand_of_mem_dealPods turn
    rw [given]
    have subset := List.Subset.trans part (left.without_subset (.ofNode d.node.node))
    exact areEventsOf_give plane limit nodes (List.Subset.trans subset inside) _

theorem map_fst_pods_dealt : ((dealt plane limit nodes).flatMap Dealt.pods).map Prod.fst =
    (answering plane limit nodes).flatMap (boundPods plane limit) := by
  have own : ((dealt plane limit nodes).flatMap fun d => d.pods.map Prod.fst) =
      (dealt plane limit nodes).flatMap fun d => d.node.pods := by
    apply List.flatMap_congr
    intro d member
    exact map_fst_pods_of_mem_deal member
  rw [List.map_flatMap, own, ← List.flatMap_map (f := Dealt.node) (g := NodePods.pods), map_node_dealt, listed_eq,
    List.flatMap_map]

theorem shown_of_dealt :
    List.Forall₂
      (fun n status => nodeStatus n (boundPods plane limit n) status.events = .ok (some status) ∧
        AreEventsOf plane limit (.ofNode n) status.events)
      (nodes.filter fun n => hasReport n && answers plane limit n && isSound plane limit n)
      ((dealt plane limit nodes).filterMap Dealt.status?) ∧
    List.Forall₂ (fun n f => IsAggregationOf n (boundPods plane limit n) f)
      (nodes.filter fun n => hasReport n && answers plane limit n && !isSound plane limit n)
      ((dealt plane limit nodes).filterMap Dealt.failure?) := by
  have both := statuses_of_dealt plane limit (fun _ member => hasReport_of_mem_dealt plane limit nodes member)
    (fun _ member => (areEventsOf_of_mem_dealt plane limit nodes member).1)
  rw [map_node_dealt, listed_eq, List.filter_map, List.filter_map, List.forall₂_map_left_iff,
    List.forall₂_map_left_iff, answering, List.filter_filter, List.filter_filter] at both
  have whole : ∀ sound : Node → Bool, (fun n => sound n && (hasReport n && answers plane limit n)) =
      fun n => hasReport n && answers plane limit n && sound n := by
    intro sound
    funext n
    exact Bool.and_comm _ _
  rw [whole, whole] at both
  exact both

theorem held_of_dealt :
    List.Forall₂
      (fun p status => podStatus p status.events = status ∧ ShowsPod p status ∧
        AreEventsOf plane limit (.ofPod p) status.events)
      ((answering plane limit nodes).flatMap (boundPods plane limit))
      ((dealt plane limit nodes).flatMap Dealt.podStatuses) := by
  have statuses : (dealt plane limit nodes).flatMap Dealt.podStatuses =
      ((dealt plane limit nodes).flatMap Dealt.pods).map fun p => podStatus p.1 p.2 := by
    rw [List.map_flatMap]
    rfl
  rw [← map_fst_pods_dealt, statuses, List.forall₂_map_left_iff, List.forall₂_map_right_iff]
  apply List.forall₂_same.2
  intro p turn
  obtain ⟨d, member, inside⟩ := List.mem_flatMap.1 turn
  exact ⟨rfl, showsPod_podStatus p.1 p.2, (areEventsOf_of_mem_dealt plane limit nodes member).2 p inside⟩

theorem values_snapshotOf : (snapshotOf plane limit nodes).pods.values.Perm
    ((dealt plane limit nodes).flatMap Dealt.podStatuses) := by
  rw [snapshotOf_eq]
  exact (Dictionary.values_map (fun ps => List.mergeSort_perm ps _) _).trans
    (Dictionary.values_file PodStatus.ns ∅ _)

theorem accounts_snapshotOf : Accounts plane limit nodes (snapshotOf plane limit nodes) := by
  have nothing : (∅ : Dictionary (List PodStatus)).IsFiled PodStatus.ns := by
    intro e member
    exact absurd member List.not_mem_nil
  have held := values_snapshotOf plane limit nodes
  rw [snapshotOf_eq] at held ⊢
  constructor
  case shown => exact ⟨_, List.mergeSort_perm _ _, (shown_of_dealt plane limit nodes).1⟩
  case held => exact ⟨_, held, held_of_dealt plane limit nodes⟩
  case filed =>
    apply Dictionary.isFiled_map fun ps => List.mergeSort_perm ps _
    exact Dictionary.isFiled_file nothing _
  case nodesSorted => exact Sorting.pairwise_mergeSort_by_key String.le_trans String.le_total _
  case podsSorted =>
    intro e member
    obtain ⟨_, _, rfl⟩ := List.mem_map.1 member
    exact Sorting.pairwise_mergeSort_by_key String.le_trans String.le_total _
  case warned =>
    exact ⟨_, _, _, rfl, failures_listings plane limit nodes, failures_lookups plane limit nodes,
      (shown_of_dealt plane limit nodes).2⟩

end Stages

def threeNodes (ofB : Call (Listing Pod)) : ControlPlane :=
  let node (name memory : String) : Node := {
    metadata := { name }
    status := {
      conditions := [{ type := "Ready", status := "True" }]
      capacity := (∅ : Dictionary String).insert "memory" memory } }
  let pod : Pod := { metadata := { name := "web", ns := "default", uid := "1" }, spec := { node := "a" } }
  { nodes := ⟨.ofSeconds 1, .answer { items := [node "b" "1Gi", node "a" "1Gi", node "c" "much"] }⟩
    pods := fun name => if name = "b" then ofB else ⟨.ofSeconds 1, .answer { items := [pod] }⟩
    events := fun _ => ⟨.ofSeconds 1, .fault (.unauthorized "events" 401)⟩ }

def crashedPods : Call (Listing Pod) :=
  ⟨.ofSeconds 1, .crash "lost"⟩

def usualLimits : Limits :=
  ⟨.ofSeconds 10, .ofSeconds 60⟩

def reaching (plane : ControlPlane) : Connector := fun _ =>
  ⟨.ofSeconds 1, .answer plane⟩

end ClusterWatch.Fetch
