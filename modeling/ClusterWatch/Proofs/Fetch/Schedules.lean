import ClusterWatch.Proofs.Fetch.Accounting
import ClusterWatch.Proofs.Tasks

namespace ClusterWatch

inductive Ending.Alike {α : Type} (same : α → α → Prop) : Ending α → Ending α → Prop where
  | answer {a b : α} : same a b → Ending.Alike same (.answer a) (.answer b)
  | fault (f : ClientFault) : Ending.Alike same (.fault f) (.fault f)
  | crash (message : String) : Ending.Alike same (.crash message) (.crash message)

/-- The same outcome in another time, where the limit breaks off both calls or neither. -/
structure Call.Alike {α : Type} (limit : Duration) (same : α → α → Prop) (c d : Call α) : Prop where
  inTime : c.delay ≤ limit ↔ d.delay ≤ limit
  ending : Ending.Alike same c.ending d.ending

structure ControlPlane.Alike (limit : Duration) (plane plane' : ControlPlane) : Prop where
  nodes : Call.Alike limit Eq plane.nodes plane'.nodes
  pods (name : String) : Call.Alike limit Eq (plane.pods name) (plane'.pods name)
  events (target : Kube.Target) : Call.Alike limit Eq (plane.events target) (plane'.events target)

theorem Ending.Alike.eq {α : Type} {e e' : Ending α} (alike : Ending.Alike Eq e e') : e = e' := by
  cases alike with
  | answer same => rw [same]
  | fault => rfl
  | crash => rfl

theorem Call.Alike.bounded {α : Type} {limit : Duration} {same : α → α → Prop} {c d : Call α}
    (alike : Call.Alike limit same c d) : Ending.Alike same (c.bounded limit).ending (d.bounded limit).ending := by
  by_cases inTime : c.delay ≤ limit
  · rw [Call.bounded_of_le inTime, Call.bounded_of_le (alike.inTime.1 inTime)]
    exact alike.ending
  · have late : ¬ d.delay ≤ limit := fun inTime' => inTime (alike.inTime.2 inTime')
    simp only [Call.bounded, if_neg inTime, if_neg late]
    exact .fault _

namespace Fetch

open Kube Tasks

section Rounds

variable {ι α : Type} {question : ι → Question} {call : ι → Call α} {items : List ι}

inductive Stage (α : Type) where
  | begun
  | asked
  | ended (c : Call α)

inductive Asking (question : ι → Question) (call : ι → Call α) (i : ι) :
    List Question × Stage α → List Question × Stage α → Prop where
  | ask (asked : List Question) : Asking question call i (asked, .begun) (asked ++ [question i], .asked)
  | finish (asked : List Question) : Asking question call i (asked, .asked) (asked, .ended (call i))

/-- On every schedule of the tasks they all end, and the goal holds of the questions in the order in which they are put
and the calls in the order of the items. -/
def AtOnce (question : ι → Question) (call : ι → Call α) (items : List ι)
    (goal : List Question → List (Call α) → Prop) : Prop :=
  Inevitably (Step (Asking question call))
    (fun t => ∃ calls, t.slots.map Prod.snd = calls.map Stage.ended ∧ goal t.shared calls) (begin .begun items [])

def Stage.rank : Stage α → Nat
  | .begun => 2
  | .asked => 1
  | .ended _ => 0

def Stage.put (question : ι → Question) (i : ι) : Stage α → List Question
  | .begun => []
  | .asked | .ended _ => [question i]

def Stage.Owed (call : ι → Call α) (i : ι) (stage : Stage α) : Prop :=
  ∀ c, stage = .ended c → c = call i

theorem Asking.rank_lt {i : ι} {s s' : List Question} {a b : Stage α} (moved : Asking question call i (s, a) (s', b)) :
    b.rank < a.rank := by
  cases moved with
  | ask => exact Nat.lt_succ_self 1
  | finish => exact Nat.lt_succ_self 0

theorem Asking.exists_of_rank (i : ι) (s : List Question) (a : Stage α) (unfinished : a.rank ≠ 0) :
    ∃ next, Asking question call i (s, a) next := by
  cases a with
  | begun => exact ⟨_, .ask s⟩
  | asked => exact ⟨_, .finish s⟩
  | ended => exact absurd rfl unfinished

theorem Asking.put {i : ι} {s s' : List Question} {a b : Stage α} (moved : Asking question call i (s, a) (s', b)) :
    ∃ new, s' = s ++ new ∧ b.put question i = a.put question i ++ new := by
  cases moved with
  | ask => exact ⟨[question i], rfl, rfl⟩
  | finish => exact ⟨[], (List.append_nil s).symm, rfl⟩

theorem Asking.owed {i : ι} {s s' : List Question} {a b : Stage α} (moved : Asking question call i (s, a) (s', b)) :
    b.Owed call i := by
  cases moved with
  | ask => exact fun c ended => nomatch ended
  | finish => exact fun c ended => (Stage.ended.inj ended).symm

variable {u : Tasks (List Question) ι (Stage α)}

theorem calls_of_run (run : Run (Asking question call) (begin .begun items []) u)
    (finished : ∀ slot ∈ u.slots, slot.2.rank = 0) : u.slots.map Prod.snd = (items.map call).map Stage.ended := by
  obtain ⟨-, owed⟩ := run.keeps (fun _ => True) (Stage.Owed call) (fun moved _ _ => ⟨trivial, moved.owed⟩) trivial
    (fun _ _ ended => nomatch ended)
  have each : ∀ slot ∈ u.slots, ∃ c, slot.2 = .ended c ∧ c = call slot.1 := by
    rintro ⟨i, stage⟩ member
    cases stage with
    | ended c => exact ⟨c, rfl, owed _ member c rfl⟩
    | begun => exact absurd (finished _ member) (Nat.succ_ne_zero 1)
    | asked => exact absurd (finished _ member) (Nat.succ_ne_zero 0)
  obtain ⟨calls, ended, matched⟩ := run.results Stage.ended (fun i c => c = call i) each
  have same : calls = items.map call := by
    rw [← List.forall₂_eq_eq_eq, List.forall₂_map_right_iff]
    exact matched.flip
  rw [ended, same]

theorem asked_of_run (run : Run (Asking question call) (begin .begun items []) u)
    (finished : ∀ slot ∈ u.slots, slot.2.rank = 0) : u.shared.Perm (items.map question) := by
  have traced := run.traced id (Stage.put question) (fun moved => moved.put) rfl (fun _ => rfl)
  have put : ∀ slot ∈ u.slots, slot.2.put question slot.1 = [question slot.1] := by
    rintro ⟨i, stage⟩ member
    cases stage with
    | begun => exact absurd (finished _ member) (Nat.succ_ne_zero 1)
    | asked | ended => rfl
  have whole : (u.slots.map fun slot => question slot.1) = items.map question := by
    rw [← run.items, List.map_map]
    rfl
  rw [List.flatMap_congr put, ← List.map_eq_flatMap, whole] at traced
  exact traced

theorem atOnce_of_perm {goal : List Question → List (Call α) → Prop}
    (holds : ∀ asked, asked.Perm (items.map question) → goal asked (items.map call)) :
    AtOnce question call items goal := by
  refine inevitably_of_runs Asking.rank_lt Asking.exists_of_rank _ fun u run finished => ⟨items.map call, ?_, ?_⟩
  · exact calls_of_run run finished
  · exact holds _ (asked_of_run run finished)

end Rounds

section Schedules

def listingFor (node : Node) : Except String (Listing Pod) → Except Failure NodePods
  | .ok list => .ok ⟨node, list.items.filter fun p => p.spec.node = node.metadata.name⟩
  | .error reason => .error (.partialFetch ("pods of node " ++ node.metadata.name) reason)

def lookupFor (target : Target) : Except String (Listing Event) → Except Failure (Target × List Event)
  | .ok list => .ok (target, list.items)
  | .error reason => .error (.partialFetch ("events of " ++ target.display) reason)

def snapshotFrom (listings : List (Except Failure NodePods)) (lookups : List (Except Failure (Target × List Event))) :
    Snapshot :=
  let assembly := (successes listings).foldl Assembly.addNode { events := (successes lookups).reverse }
  assembly.snapshot (failures listings ++ failures lookups)

/-- The rounds of questions about pods and about events, on every schedule of each. A round lasts until its last
call has ended, and its results are matched with the nodes or the targets by position. -/
def AsksAll (start limit : Duration) (plane : ControlPlane) (nodes : List Node)
    (goal : Duration → List (Duration × Question) → Snapshot → Prop) : Prop :=
  let nodes := reported nodes
  AtOnce (fun n => .pods n.metadata.name) (fun n => (plane.pods n.metadata.name).bounded limit) nodes
    fun podsAsked podCalls =>
      let listings := List.zipWith listingFor nodes (podCalls.map fun c => c.ending.result)
      let wanted := targets (successes listings)
      let later := start + Duration.longest (podCalls.map Call.delay)
      AtOnce Question.events (fun t => (plane.events t).bounded limit) wanted fun eventsAsked eventCalls =>
        let lookups := List.zipWith lookupFor wanted (eventCalls.map fun c => c.ending.result)
        goal (later + Duration.longest (eventCalls.map Call.delay))
          (podsAsked.map (Prod.mk start) ++ eventsAsked.map (Prod.mk later)) (snapshotFrom listings lookups)

def Proceeds (connector : Connector) (limit : Duration) (cluster : Cluster) (goal : Course → Prop) : Prop :=
  let first := (connector cluster).bounded limit
  let asked := [((0 : Duration), Question.version)]
  match first.ending with
  | .crash _ => goal ⟨first.delay, asked, .error .crash⟩
  | .fault f => goal ⟨first.delay, asked, .error (Failure.connection cluster.identifier f.message)⟩
  | .answer plane =>
    let listing := plane.nodes.bounded limit
    let asked := asked ++ [(first.delay, Question.nodes)]
    let start := first.delay + listing.delay
    match listing.ending with
    | .crash _ => goal ⟨start, asked, .error .crash⟩
    | .fault f => goal ⟨start, asked, .error (Failure.list cluster.identifier f.message)⟩
    | .answer list =>
      AsksAll start limit plane list.items fun elapsed more s => goal ⟨elapsed, asked ++ more, .ok s⟩

def Fetches (connector : Connector) (limits : Limits) (cluster : Cluster) (goal : Course → Prop) : Prop :=
  Proceeds connector limits.call cluster fun c =>
    goal (c.bounded limits.fetch ("snapshot of cluster " ++ cluster.identifier))

theorem podsOf_eq_listingFor (plane : ControlPlane) (limit : Duration) (node : Node) :
    podsOf plane limit node = listingFor node ((plane.pods node.metadata.name).bounded limit).ending.result := by
  unfold podsOf listingFor
  cases ((plane.pods node.metadata.name).bounded limit).ending.result <;> rfl

theorem eventsOf_eq_lookupFor (plane : ControlPlane) (limit : Duration) (target : Target) :
    eventsOf plane limit target = lookupFor target ((plane.events target).bounded limit).ending.result := by
  unfold eventsOf lookupFor
  cases ((plane.events target).bounded limit).ending.result <;> rfl

theorem zipWith_results {α β γ δ : Type} {f : α → γ → δ} {whole : α → δ} (call : α → β) (result : β → γ)
    (each : ∀ a, whole a = f a (result (call a))) (items : List α) :
    List.zipWith f items ((items.map call).map result) = items.map whole := by
  rw [List.map_map, List.zipWith_map_right, List.zipWith_self]
  exact List.map_congr_left fun a _ => (each a).symm

variable {connector : Connector} {limits : Limits} {limit : Duration} {cluster : Cluster}

theorem asksAll_of_perm (start : Duration) (plane : ControlPlane) (nodes : List Node)
    {goal : Duration → List (Duration × Question) → Snapshot → Prop}
    (holds : ∀ more, more.Perm (askAll start limit plane nodes).2 →
      goal (askAll start limit plane nodes).1 more (snapshotOf plane limit nodes)) :
    AsksAll start limit plane nodes goal := by
  unfold AsksAll
  refine atOnce_of_perm fun podsAsked samePods => ?_
  have listings := zipWith_results (fun n : Node => (plane.pods n.metadata.name).bounded limit)
    (fun c => c.ending.result) (podsOf_eq_listingFor plane limit)
  simp only [listings]
  -- Which events are asked for depends on the listings, and so only now is it the same on every schedule.
  refine atOnce_of_perm fun eventsAsked sameEvents => ?_
  have lookups := zipWith_results (fun t => (plane.events t).bounded limit) (fun c => c.ending.result)
    (eventsOf_eq_lookupFor plane limit)
  simp only [lookups]
  have same (later : Duration) := (samePods.map (Prod.mk start)).append (sameEvents.map (Prod.mk later))
  simp only [List.map_map] at same ⊢
  exact holds _ (same _)

theorem proceeds_of_course {goal : Course → Prop}
    (holds : ∀ asked, asked.Perm (course connector limit cluster).asked →
      goal ⟨(course connector limit cluster).elapsed, asked, (course connector limit cluster).result⟩) :
    Proceeds connector limit cluster goal := by
  unfold Proceeds
  unfold course at holds
  cases reached : ((connector cluster).bounded limit).ending with
  | crash | fault =>
    simp only [reached] at holds ⊢
    exact holds _ (.refl _)
  | answer plane =>
    simp only [reached] at holds ⊢
    cases listing : (plane.nodes.bounded limit).ending with
    | crash | fault =>
      simp only [listing] at holds ⊢
      exact holds _ (.refl _)
    | answer list =>
      simp only [listing] at holds ⊢
      exact asksAll_of_perm _ plane list.items fun more same => holds _ (same.append_left _)

end Schedules

section Delays

def Course.questions (c : Course) : List Question :=
  c.asked.map Prod.snd

structure Course.Alike (c d : Course) : Prop where
  result : c.result = d.result
  questions : c.questions.Perm d.questions

theorem Course.Alike.trans {c d e : Course} (alike : c.Alike d) (next : d.Alike e) : c.Alike e :=
  ⟨alike.result.trans next.result, alike.questions.trans next.questions⟩

variable {connector connector' : Connector} {limits : Limits} {limit : Duration} {cluster : Cluster}
  {plane plane' : ControlPlane}

theorem podsOf_congr (alike : plane.Alike limit plane') : podsOf plane limit = podsOf plane' limit := by
  funext node
  have calls := (alike.pods node.metadata.name).bounded.eq
  rw [podsOf_eq_listingFor, podsOf_eq_listingFor, calls]

theorem eventsOf_congr (alike : plane.Alike limit plane') : eventsOf plane limit = eventsOf plane' limit := by
  funext target
  have calls := (alike.events target).bounded.eq
  rw [eventsOf_eq_lookupFor, eventsOf_eq_lookupFor, calls]

theorem snapshotOf_congr (alike : plane.Alike limit plane') (nodes : List Node) :
    snapshotOf plane limit nodes = snapshotOf plane' limit nodes := by
  unfold snapshotOf
  rw [podsOf_congr alike, eventsOf_congr alike]

theorem questions_askAll (start : Duration) (plane : ControlPlane) (nodes : List Node) :
    (askAll start limit plane nodes).2.map Prod.snd =
      ((reported nodes).map fun n => Question.pods n.metadata.name) ++
        (targets (successes ((reported nodes).map (podsOf plane limit)))).map Question.events := by
  simp only [askAll, List.map_append, List.map_map]
  rfl

theorem course_alike (alike : Call.Alike limit (ControlPlane.Alike limit) (connector cluster) (connector' cluster)) :
    (course connector limit cluster).Alike (course connector' limit cluster) := by
  have first := alike.bounded
  generalize reached : ((connector cluster).bounded limit).ending = ending at first
  generalize reached' : ((connector' cluster).bounded limit).ending = ending' at first
  cases first with
  | crash | fault =>
    simp only [course, reached, reached']
    exact ⟨rfl, .refl _⟩
  | @answer plane plane' planes =>
    have nodes := planes.nodes.bounded.eq
    cases listing : (plane.nodes.bounded limit).ending with
    | crash | fault =>
      simp only [course, reached, reached', ← nodes, listing]
      exact ⟨rfl, .refl _⟩
    | answer list =>
      simp only [course, reached, reached', ← nodes, listing]
      constructor
      · exact congrArg Except.ok (snapshotOf_congr planes list.items)
      · simp only [Course.questions, List.map_append, questions_askAll, podsOf_congr planes]
        exact .refl _

theorem fetches_of_alike {goal : Course → Prop}
    (holds : ∀ c, (fetchSnapshot connector limits cluster).Alike c → goal c) :
    Fetches connector limits cluster goal := by
  refine proceeds_of_course fun asked same => holds _ ?_
  by_cases inTime : (course connector limits.call cluster).elapsed ≤ limits.fetch
  · rw [fetchSnapshot_of_inTime inTime, Course.bounded, if_pos inTime]
    exact ⟨rfl, (same.map Prod.snd).symm⟩
  · rw [fetchSnapshot, Course.bounded, Course.bounded, if_neg inTime, if_neg inTime]
    exact ⟨rfl, ((same.filter _).map Prod.snd).symm⟩

/-- Two control planes that differ only in the time that their answers take come to the same. -/
theorem fetch_is_independent_of_delays
    (alike : Call.Alike limits.call (ControlPlane.Alike limits.call) (connector cluster) (connector' cluster))
    (inTime : (course connector limits.call cluster).elapsed ≤ limits.fetch)
    (inTime' : (course connector' limits.call cluster).elapsed ≤ limits.fetch) :
    (fetchSnapshot connector limits cluster).Alike (fetchSnapshot connector' limits cluster) ∧
      Fetches connector limits cluster (Course.Alike (fetchSnapshot connector limits cluster)) ∧
      Fetches connector' limits cluster (Course.Alike (fetchSnapshot connector limits cluster)) := by
  have same : (fetchSnapshot connector limits cluster).Alike (fetchSnapshot connector' limits cluster) := by
    rw [fetchSnapshot_of_inTime inTime, fetchSnapshot_of_inTime inTime']
    exact course_alike alike
  refine ⟨same, fetches_of_alike fun _ alike => alike, fetches_of_alike fun _ alike => ?_⟩
  exact same.trans alike

end Delays

def latePods : Call (Listing Pod) :=
  ⟨.ofSeconds 11, .answer {}⟩

def slower (plane : ControlPlane) : ControlPlane :=
  let twice {α : Type} (c : Call α) : Call α := { c with delay := c.delay + c.delay }
  { nodes := twice plane.nodes
    pods := fun name => twice (plane.pods name)
    events := fun target => twice (plane.events target) }

theorem alike_slower : (threeNodes latePods).Alike usualLimits.call (slower (threeNodes latePods)) where
  nodes := ⟨by decide, .answer rfl⟩
  pods name := by
    by_cases late : name = "b"
    · simp only [threeNodes, slower, if_pos late]
      exact ⟨by decide, .answer rfl⟩
    · simp only [threeNodes, slower, if_neg late]
      exact ⟨by decide, .answer rfl⟩
  events target := by
    simp only [threeNodes, slower]
    exact ⟨by decide, .fault _⟩

theorem slower_fetch_is_alike :
    Call.Alike usualLimits.call (ControlPlane.Alike usualLimits.call) (reaching (threeNodes latePods) default)
        (reaching (slower (threeNodes latePods)) default) ∧
      (course (reaching (threeNodes latePods)) usualLimits.call default).elapsed ≤ usualLimits.fetch ∧
      (course (reaching (slower (threeNodes latePods))) usualLimits.call default).elapsed ≤ usualLimits.fetch ∧
      (fetchSnapshot (reaching (threeNodes latePods)) usualLimits default).Alike
        (fetchSnapshot (reaching (slower (threeNodes latePods))) usualLimits default) :=
  have alike : Call.Alike usualLimits.call (ControlPlane.Alike usualLimits.call)
      (reaching (threeNodes latePods) default) (reaching (slower (threeNodes latePods)) default) := ⟨Iff.rfl, .answer alike_slower⟩
  have inTime : (course (reaching (threeNodes latePods)) usualLimits.call default).elapsed ≤ usualLimits.fetch := by
    decide
  have inTime' : (course (reaching (slower (threeNodes latePods))) usualLimits.call default).elapsed ≤
      usualLimits.fetch := by decide
  ⟨alike, inTime, inTime', (fetch_is_independent_of_delays alike inTime inTime').1⟩

end Fetch

end ClusterWatch
