import ClusterWatch.Fetch
import ClusterWatch.Proofs.Dictionary

namespace ClusterWatch.Fetch

open Kube

abbrev Hand := List (Target × List Event)

namespace Hand

def give (h : Hand) (target : Target) : List Event :=
  (h.lookup target).getD []

def without (h : Hand) (target : Target) : Hand :=
  h.filter fun e => e.1 ≠ target

def afterPods (h : Hand) (pods : List Pod) : Hand :=
  pods.foldl (fun h p => h.without (.ofPod p)) h

def after (h : Hand) (n : NodePods) : Hand :=
  (h.without (.ofNode n.node)).afterPods n.pods

theorem without_subset (h : Hand) (target : Target) : h.without target ⊆ h :=
  fun _ member => List.mem_of_mem_filter member

theorem afterPods_subset (h : Hand) (pods : List Pod) : h.afterPods pods ⊆ h := by
  induction pods generalizing h with
  | nil => exact List.Subset.refl h
  | cons p rest ih => exact List.Subset.trans (ih (h.without (.ofPod p))) (h.without_subset _)

theorem after_subset (h : Hand) (n : NodePods) : h.after n ⊆ h :=
  List.Subset.trans (afterPods_subset _ n.pods) (h.without_subset _)

end Hand

structure Dealt where
  node : NodePods
  events : List Event
  pods : List (Pod × List Event)

namespace Dealt

def status? (d : Dealt) : Option NodeStatus :=
  match nodeStatus d.node.node d.node.pods d.events with
  | .ok status => status
  | .error _ => none

def failure? (d : Dealt) : Option Failure :=
  match nodeStatus d.node.node d.node.pods d.events with
  | .ok _ => none
  | .error f => some f

def podStatuses (d : Dealt) : List PodStatus :=
  d.pods.map fun p => podStatus p.1 p.2

end Dealt

def dealPods : Hand → List Pod → List (Pod × List Event)
  | _, [] => []
  | h, p :: rest => (p, h.give (.ofPod p)) :: dealPods (h.without (.ofPod p)) rest

def dealNode (h : Hand) (n : NodePods) : Dealt :=
  ⟨n, h.give (.ofNode n.node), dealPods (h.without (.ofNode n.node)) n.pods⟩

def deal : Hand → List NodePods → List Dealt
  | _, [] => []
  | h, n :: rest => dealNode h n :: deal (h.after n) rest

theorem map_fst_dealPods (h : Hand) (pods : List Pod) : (dealPods h pods).map Prod.fst = pods := by
  induction pods generalizing h with
  | nil => rfl
  | cons p rest ih => rw [dealPods, List.map_cons, ih]

theorem map_node_deal (h : Hand) (listed : List NodePods) : (deal h listed).map Dealt.node = listed := by
  induction listed generalizing h with
  | nil => rfl
  | cons n rest ih => rw [deal, List.map_cons, ih, dealNode]

theorem exists_hand_of_mem_deal {h : Hand} {listed : List NodePods} {d : Dealt} (member : d ∈ deal h listed) :
    ∃ left : Hand, left ⊆ h ∧ d = dealNode left d.node := by
  induction listed generalizing h with
  | nil => exact absurd member List.not_mem_nil
  | cons n rest ih =>
    rcases List.mem_cons.1 member with rfl | member
    · exact ⟨h, List.Subset.refl h, rfl⟩
    · obtain ⟨left, inside, same⟩ := ih member
      exact ⟨left, List.Subset.trans inside (h.after_subset n), same⟩

theorem map_fst_pods_of_mem_deal {h : Hand} {listed : List NodePods} {d : Dealt} (member : d ∈ deal h listed) :
    d.pods.map Prod.fst = d.node.pods := by
  obtain ⟨left, -, same⟩ := exists_hand_of_mem_deal member
  rw [same]
  exact map_fst_dealPods _ d.node.pods

theorem exists_hand_of_mem_dealPods {h : Hand} {pods : List Pod} {p : Pod × List Event}
    (member : p ∈ dealPods h pods) : ∃ left : Hand, left ⊆ h ∧ p.2 = left.give (.ofPod p.1) := by
  induction pods generalizing h with
  | nil => exact absurd member List.not_mem_nil
  | cons first rest ih =>
    rcases List.mem_cons.1 member with rfl | member
    · exact ⟨h, List.Subset.refl h, rfl⟩
    · obtain ⟨left, inside, same⟩ := ih member
      exact ⟨left, List.Subset.trans inside (h.without_subset _), same⟩

section Distinct

variable {h : Hand}

theorem Hand.give_without {target other : Target} (apart : target ≠ other) :
    (h.without other).give target = h.give target := by
  have same : (h.without other).lookup target = h.lookup target := by
    induction h with
    | nil => rfl
    | cons e rest ih =>
      by_cases gone : e.1 = other
      · have skip : (target == e.1) = false := by simpa [gone] using apart
        rw [Hand.without, List.filter_cons_of_neg (by simpa using gone), List.lookup_cons, skip]
        exact ih
      · rw [Hand.without, List.filter_cons_of_pos (by simpa using gone), List.lookup_cons, List.lookup_cons]
        split
        · rfl
        · exact ih
  rw [give, give, same]

theorem Hand.give_afterPods {target : Target} {pods : List Pod} (apart : target ∉ pods.map Target.ofPod) :
    (h.afterPods pods).give target = h.give target := by
  induction pods generalizing h with
  | nil => rfl
  | cons p rest ih =>
    rw [List.map_cons, List.mem_cons, not_or] at apart
    have first : (h.afterPods (p :: rest)).give target = ((h.without (.ofPod p)).afterPods rest).give target := rfl
    rw [first, ih apart.2, give_without apart.1]

theorem Hand.give_after {target : Target} {n : NodePods} (node : target ≠ .ofNode n.node)
    (pods : target ∉ n.pods.map Target.ofPod) : (h.after n).give target = h.give target := by
  rw [after, give_afterPods pods, give_without node]

theorem dealPods_of_distinct {pods : List Pod} (distinct : (pods.map Target.ofPod).Nodup) :
    dealPods h pods = pods.map fun p => (p, h.give (.ofPod p)) := by
  induction pods generalizing h with
  | nil => rfl
  | cons p rest ih =>
    obtain ⟨fresh, others⟩ := List.nodup_cons.1 distinct
    rw [dealPods, ih others, List.map_cons]
    congr 1
    apply List.map_congr_left
    intro q member
    rw [Hand.give_without]
    intro same
    exact fresh (List.mem_map.2 ⟨q, member, same⟩)

theorem ofNode_not_mem_pods (node : Node) (pods : List Pod) : Target.ofNode node ∉ pods.map Target.ofPod := by
  intro member
  obtain ⟨p, -, same⟩ := List.mem_map.1 member
  cases same

def dealAlone (h : Hand) (n : NodePods) : Dealt :=
  ⟨n, h.give (.ofNode n.node), n.pods.map fun p => (p, h.give (.ofPod p))⟩

theorem dealNode_of_distinct {n : NodePods} (pods : (n.pods.map Target.ofPod).Nodup) :
    dealNode h n = dealAlone h n := by
  rw [dealNode, dealAlone, dealPods_of_distinct pods]
  congr 1
  apply List.map_congr_left
  intro p member
  rw [Hand.give_without]
  exact nofun

theorem deal_of_distinct {listed : List NodePods} (nodes : (listed.map fun n => n.node.metadata.name).Nodup)
    (pods : ((listed.flatMap NodePods.pods).map Target.ofPod).Nodup) : deal h listed = listed.map (dealAlone h) := by
  induction listed generalizing h with
  | nil => rfl
  | cons n rest ih =>
    obtain ⟨fresh, otherNodes⟩ := List.nodup_cons.1 nodes
    rw [List.flatMap_cons, List.map_append] at pods
    obtain ⟨own, others, apart⟩ := List.nodup_append.1 pods
    rw [deal, ih otherNodes others, List.map_cons, dealNode_of_distinct own]
    congr 1
    -- What the first node and its pods have taken is nothing that a later one asks for.
    apply List.map_congr_left
    intro other member
    have node : (h.after n).give (.ofNode other.node) = h.give (.ofNode other.node) := by
      apply Hand.give_after _ (ofNode_not_mem_pods other.node n.pods)
      intro same
      exact fresh (List.mem_map.2 ⟨other, member, Target.node.inj same⟩)
    have each : ∀ p ∈ other.pods, (h.after n).give (.ofPod p) = h.give (.ofPod p) := by
      intro p turn
      rw [Hand.give_after]
      · exact nofun
      · intro inside
        have there := List.mem_map_of_mem (f := Target.ofPod) (List.mem_flatMap.2 ⟨other, member, turn⟩)
        exact apart _ inside _ there rfl
    rw [dealAlone, dealAlone, node]
    congr 1
    apply List.map_congr_left
    intro p turn
    rw [each p turn]

end Distinct

namespace Assembly

theorem addPod_eq (a : Assembly) (p : Pod) :
    a.addPod p = ⟨Hand.without a.events (.ofPod p), a.nodes,
      a.pods.file PodStatus.ns [podStatus p (Hand.give a.events (.ofPod p))], a.failures⟩ :=
  rfl

theorem foldl_addPod (pods : List Pod) (a : Assembly) :
    pods.foldl addPod a = ⟨Hand.afterPods a.events pods, a.nodes,
      a.pods.file PodStatus.ns ((dealPods a.events pods).map fun p => podStatus p.1 p.2), a.failures⟩ := by
  induction pods generalizing a with
  | nil => rfl
  | cons p rest ih =>
    rw [List.foldl_cons, ih, addPod_eq]
    rfl

theorem addNode_eq (a : Assembly) (n : NodePods) :
    a.addNode n = ⟨Hand.after a.events n, a.nodes ++ (dealNode a.events n).status?.toList,
      a.pods.file PodStatus.ns (dealNode a.events n).podStatuses,
      a.failures ++ (dealNode a.events n).failure?.toList⟩ := by
  rw [addNode, foldl_addPod]
  cases built : nodeStatus n.node n.pods (a.eventsFor (.ofNode n.node)) with
  | error f =>
    have same : nodeStatus n.node n.pods (Hand.give a.events (.ofNode n.node)) = .error f := built
    simp only [dealNode, Dealt.status?, Dealt.failure?, same, Option.toList_none, Option.toList_some,
      List.append_nil]
    rfl
  | ok status =>
    have same : nodeStatus n.node n.pods (Hand.give a.events (.ofNode n.node)) = .ok status := built
    cases status <;>
      simp only [dealNode, Dealt.status?, Dealt.failure?, same, Option.toList_none, Option.toList_some,
        List.append_nil] <;>
      rfl

theorem foldl_addNode (listed : List NodePods) (a : Assembly) :
    listed.foldl addNode a = ⟨listed.foldl Hand.after a.events,
      a.nodes ++ (deal a.events listed).filterMap Dealt.status?,
      a.pods.file PodStatus.ns ((deal a.events listed).flatMap Dealt.podStatuses),
      a.failures ++ (deal a.events listed).filterMap Dealt.failure?⟩ := by
  induction listed generalizing a with
  | nil =>
    simp only [deal, List.filterMap_nil, List.flatMap_nil, List.append_nil]
    rfl
  | cons n rest ih =>
    rw [List.foldl_cons, ih, addNode_eq, deal, List.flatMap_cons, Dictionary.file_append,
      List.filterMap_cons, List.filterMap_cons]
    cases (dealNode a.events n).status? <;> cases (dealNode a.events n).failure? <;>
      simp only [Option.toList_none, Option.toList_some, List.append_nil, List.append_assoc,
        List.singleton_append] <;>
      rfl

end Assembly

section Snapshot

variable (plane : ControlPlane) (limit : Duration) (nodes : List Node)

def listings : List (Except Failure NodePods) :=
  (reported nodes).map (podsOf plane limit)

def listed : List NodePods :=
  successes (listings plane limit nodes)

def lookups : List (Except Failure (Target × List Event)) :=
  (targets (listed plane limit nodes)).map (eventsOf plane limit)

def dealt : List Dealt :=
  deal (successes (lookups plane limit nodes)).reverse (listed plane limit nodes)

def recorded : List Failure :=
  failures (listings plane limit nodes) ++ failures (lookups plane limit nodes) ++
    (dealt plane limit nodes).filterMap Dealt.failure?

def filed : Dictionary (List PodStatus) :=
  (∅ : Dictionary (List PodStatus)).file PodStatus.ns ((dealt plane limit nodes).flatMap Dealt.podStatuses)

theorem snapshotOf_eq : snapshotOf plane limit nodes = {
    nodes := ((dealt plane limit nodes).filterMap Dealt.status?).mergeSort fun x y => x.name ≤ y.name
    pods := (filed plane limit nodes).map fun ps => ps.mergeSort fun x y => x.name ≤ y.name
    warnings := (recorded plane limit nodes).map Failure.message } := by
  unfold snapshotOf
  simp only [Assembly.foldl_addNode, Assembly.snapshot, List.nil_append]
  rfl

end Snapshot

section Courses

variable {connector : Connector} {limit : Duration} {cluster : Cluster} {plane : ControlPlane}

theorem course_of_connection_fault {f : ClientFault} (first : ((connector cluster).bounded limit).ending = .fault f) :
    course connector limit cluster = ⟨((connector cluster).bounded limit).delay, [(0, .version)],
      .error (Failure.connection cluster.identifier f.message)⟩ := by
  unfold course
  simp only [first]

theorem course_of_listing_fault {f : ClientFault} (first : ((connector cluster).bounded limit).ending = .answer plane)
    (second : (plane.nodes.bounded limit).ending = .fault f) :
    course connector limit cluster =
      ⟨((connector cluster).bounded limit).delay + (plane.nodes.bounded limit).delay,
        [(0, .version), (((connector cluster).bounded limit).delay, .nodes)],
        .error (Failure.list cluster.identifier f.message)⟩ := by
  unfold course
  simp only [first, second]
  rfl

theorem course_of_answers {list : Listing Node} (first : ((connector cluster).bounded limit).ending = .answer plane)
    (second : (plane.nodes.bounded limit).ending = .answer list) :
    course connector limit cluster =
      let start := ((connector cluster).bounded limit).delay + (plane.nodes.bounded limit).delay
      ⟨(askAll start limit plane list.items).1,
        [(0, .version), (((connector cluster).bounded limit).delay, .nodes)] ++
          (askAll start limit plane list.items).2,
        .ok (snapshotOf plane limit list.items)⟩ := by
  unfold course
  simp only [first, second]
  rfl

end Courses

theorem answer_of_bounded {α : Type} {limit : Duration} {c : Call α} {a : α}
    (given : (c.bounded limit).ending = .answer a) : c.ending = .answer a := by
  rw [Call.bounded] at given
  split at given
  · exact given
  · cases given

theorem fetchSnapshot_of_inTime {connector : Connector} {limits : Limits} {cluster : Cluster}
    (inTime : (course connector limits.call cluster).elapsed ≤ limits.fetch) :
    fetchSnapshot connector limits cluster = course connector limits.call cluster := by
  rw [fetchSnapshot, Course.bounded, if_pos inTime]

theorem exists_answers_of_fetch {connector : Connector} {limits : Limits} {cluster : Cluster} {s : Snapshot}
    (taken : (fetchSnapshot connector limits cluster).result = .ok s) :
    fetchSnapshot connector limits cluster = course connector limits.call cluster ∧
      ∃ plane list, ((connector cluster).bounded limits.call).ending = .answer plane ∧
        (plane.nodes.bounded limits.call).ending = .answer list := by
  have inTime : (course connector limits.call cluster).elapsed ≤ limits.fetch := by
    by_contra late
    rw [fetchSnapshot, Course.bounded, if_neg late] at taken
    cases taken
  have same := fetchSnapshot_of_inTime inTime
  rw [same] at taken
  refine ⟨same, ?_⟩
  unfold course at taken
  cases first : ((connector cluster).bounded limits.call).ending with
  | crash message => simp [first] at taken
  | fault f => simp [first] at taken
  | answer plane =>
    cases second : (plane.nodes.bounded limits.call).ending with
    | crash message => simp [first, second] at taken
    | fault f => simp [first, second] at taken
    | answer list => exact ⟨plane, list, rfl, second⟩

theorem exists_plane_of_fetch {connector : Connector} {limits : Limits} {cluster : Cluster} {s : Snapshot}
    (taken : (fetchSnapshot connector limits cluster).result = .ok s) :
    ∃ plane list, (connector cluster).ending = .answer plane ∧ plane.nodes.ending = .answer list ∧
      s = snapshotOf plane limits.call list.items := by
  obtain ⟨same, plane, list, first, second⟩ := exists_answers_of_fetch taken
  rw [same, course_of_answers first second] at taken
  exact ⟨plane, list, answer_of_bounded first, answer_of_bounded second, (Except.ok.inj taken).symm⟩

end ClusterWatch.Fetch
