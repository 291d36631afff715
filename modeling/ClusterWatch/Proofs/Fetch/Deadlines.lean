import ClusterWatch.Proofs.Fetch.Schedules
import ClusterWatch.Proofs.Rounds

namespace ClusterWatch

namespace Call

variable {α : Type}

def time (limit : Duration) (c : Call α) : Duration :=
  .min c.delay limit

def Answers (limit : Duration) (c : Call α) (a : α) : Prop :=
  c.ending = .answer a ∧ c.delay ≤ limit

def Fails (limit : Duration) (c : Call α) : Prop :=
  (∃ f, c.ending = .fault f) ∨ limit < c.delay

variable {limit : Duration} {c : Call α}

theorem delay_bounded (limit : Duration) (c : Call α) : (c.bounded limit).delay = c.time limit := by
  by_cases inTime : c.delay ≤ limit
  · rw [bounded_of_le inTime]
    exact congrArg Duration.mk (Nat.min_eq_left inTime).symm
  · rw [bounded, if_neg inTime]
    exact congrArg Duration.mk (Nat.min_eq_right (Nat.le_of_not_le inTime)).symm

theorem Answers.bounded {a : α} (answers : c.Answers limit a) : (c.bounded limit).ending = .answer a := by
  rw [bounded_of_le answers.2, answers.1]

theorem Fails.bounded (fails : c.Fails limit) : ∃ f, (c.bounded limit).ending = .fault f := by
  by_cases inTime : c.delay ≤ limit
  · rcases fails with ⟨f, fault⟩ | late
    · exact ⟨f, by rw [bounded_of_le inTime, fault]⟩
    · exact absurd inTime (Duration.not_le_iff.2 late)
  · exact ⟨.timeout limit, by rw [Call.bounded, if_neg inTime]⟩

theorem Answers.not_fails {a : α} (answers : c.Answers limit a) : ¬ c.Fails limit := by
  rintro (⟨f, fault⟩ | late)
  · cases answers.1.symm.trans fault
  · exact absurd answers.2 (Duration.not_le_iff.2 late)

theorem answers_or_fails (calm : ∀ message, c.ending ≠ .crash message) :
    (∃ a, c.Answers limit a) ∨ c.Fails limit := by
  by_cases inTime : c.delay ≤ limit
  · cases ending : c.ending with
    | answer a => exact Or.inl ⟨a, ending, inTime⟩
    | fault f => exact Or.inr (Or.inl ⟨f, ending⟩)
    | crash message => exact absurd ending (calm message)
  · exact Or.inr (Or.inr (Duration.not_le_iff.1 inTime))

end Call

namespace Fetch

open Kube

section Spec

variable (connector : Connector) (cluster : Cluster)

def IsLongest (times : List Duration) (d : Duration) : Prop :=
  (∀ t ∈ times, t ≤ d) ∧ (d ∈ times ∨ d = 0)

inductive Stages (limit : Duration) : List Duration → Prop where
  | unreached (failed : (connector cluster).Fails limit) : Stages limit [(connector cluster).time limit]
  | unlisted {plane : ControlPlane} (reached : (connector cluster).Answers limit plane)
      (failed : plane.nodes.Fails limit) : Stages limit [(connector cluster).time limit, plane.nodes.time limit]
  | listed {plane : ControlPlane} {list : Listing Node} {pods events : Duration}
      (reached : (connector cluster).Answers limit plane) (listing : plane.nodes.Answers limit list)
      (slowestPods : IsLongest
        ((list.items.filter hasReport).map fun n => (plane.pods n.metadata.name).time limit) pods)
      (slowestEvents : IsLongest ((wanted plane limit list.items).map fun t => (plane.events t).time limit) events) :
      Stages limit [(connector cluster).time limit, plane.nodes.time limit, pods, events]

def total (stages : List Duration) : Duration :=
  stages.foldl (· + ·) 0

structure Calm : Prop where
  connects : ∀ message, (connector cluster).ending ≠ .crash message
  lists : ∀ plane, (connector cluster).ending = .answer plane → ∀ message, plane.nodes.ending ≠ .crash message

def lateCalls (plane : ControlPlane) (limit : Duration) (nodes : List Node) : List Failure :=
  (((nodes.filter hasReport).filter fun n => limit < (plane.pods n.metadata.name).delay).map fun n =>
      .partialFetch ("pods of node " ++ n.metadata.name) ("no response within " ++ limit.text)) ++
    ((wanted plane limit nodes).filter fun t => limit < (plane.events t).delay).map fun t =>
      .partialFetch ("events of " ++ t.display) ("no response within " ++ limit.text)

def timedOut (limits : Limits) : Except Mishap Snapshot :=
  .error (.failure (.timeout ("snapshot of cluster " ++ cluster.identifier) limits.fetch))

structure Meets (limits : Limits) (spent : Duration) (c : Course) : Prop where
  elapsed : c.elapsed = .min spent limits.fetch
  timeout : c.result = timedOut cluster limits ↔ limits.fetch < spent
  connection : (∃ reason, c.result = .error (.failure (.connection cluster.identifier reason))) ↔
    spent ≤ limits.fetch ∧ (connector cluster).Fails limits.call
  list : (∃ reason, c.result = .error (.failure (.list cluster.identifier reason))) ↔
    spent ≤ limits.fetch ∧ ∃ plane, (connector cluster).Answers limits.call plane ∧ plane.nodes.Fails limits.call
  ok : (∃ s, c.result = .ok s) ↔ spent ≤ limits.fetch ∧
    ∃ plane list, (connector cluster).Answers limits.call plane ∧ plane.nodes.Answers limits.call list
  late : ∀ s plane list, c.result = .ok s → (connector cluster).ending = .answer plane →
    plane.nodes.ending = .answer list →
    ((lateCalls plane limits.call list.items).map Failure.message).Sublist s.warnings

end Spec

section Plans

def gathering (plane : ControlPlane) (nodes : List Node) : Plan (Except Mishap Snapshot) :=
  let nodes := reported nodes
  .round (nodes.map fun n => plane.pods n.metadata.name) fun podEndings =>
    let listings := List.zipWith listingFor nodes (podEndings.map Ending.result)
    let wanted := targets (successes listings)
    .round (wanted.map plane.events) fun eventEndings =>
      .done (.ok (snapshotFrom listings (List.zipWith lookupFor wanted (eventEndings.map Ending.result))))

def plan (connector : Connector) (cluster : Cluster) : Plan (Except Mishap Snapshot) :=
  .round [connector cluster] fun
    | [.answer plane] =>
      .round [plane.nodes] fun
        | [.answer list] => gathering plane list.items
        | [.fault f] => .done (.error (Failure.list cluster.identifier f.message))
        | _ => .done (.error .crash)
    | [.fault f] => .done (.error (Failure.connection cluster.identifier f.message))
    | _ => .done (.error .crash)

/-- On every way that time takes, the fetch ends just as the course does. -/
def TakesCourse (connector : Connector) (limits : Limits) (cluster : Cluster) (c : Course) : Prop :=
  (plan connector cluster).Comes limits
    (fun time result => time = c.elapsed ∧ result.getD (timedOut cluster limits) = c.result) 0

theorem outcome_gathering (plane : ControlPlane) (limit start : Duration) (nodes : List Node) :
    (gathering plane nodes).outcome limit start =
      ((askAll start limit plane nodes).1, .ok (snapshotOf plane limit nodes)) := by
  have listings := zipWith_results (fun n : Node => ((plane.pods n.metadata.name).bounded limit).ending)
    Ending.result (podsOf_eq_listingFor plane limit)
  have lookups := zipWith_results (fun t => ((plane.events t).bounded limit).ending) Ending.result
    (eventsOf_eq_lookupFor plane limit)
  simp only [gathering, Plan.outcome, List.map_map, Function.comp_def] at listings lookups ⊢
  simp only [listings, lookups, slowest, List.map_map, Function.comp_def]
  rfl

theorem outcome_plan (connector : Connector) (limit : Duration) (cluster : Cluster) :
    (plan connector cluster).outcome limit 0 =
      ((course connector limit cluster).elapsed, (course connector limit cluster).result) := by
  unfold plan course
  simp only [Plan.outcome, List.map_cons, List.map_nil, slowest_singleton, Duration.zero_add]
  cases first : ((connector cluster).bounded limit).ending with
  | crash | fault => rfl
  | answer plane =>
    simp only [Plan.outcome, List.map_cons, List.map_nil, slowest_singleton]
    cases second : (plane.nodes.bounded limit).ending with
    | crash | fault => rfl
    | answer list => exact outcome_gathering plane limit _ list.items

end Plans

section Stages

variable {connector : Connector} {cluster : Cluster} {limits : Limits} {limit : Duration} {plane : ControlPlane}
  {nodes : List Node} {stages : List Duration}

theorem isLongest_iff {times : List Duration} {d : Duration} : IsLongest times d ↔ d = .longest times := by
  constructor
  · rintro ⟨above, attained⟩
    have most : .longest times ≤ d := Duration.longest_le_iff.2 above
    have least : d ≤ .longest times := by
      rcases attained with member | rfl
      · exact Duration.longest_le_iff.1 (Nat.le_refl _) d member
      · exact Nat.zero_le _
    exact Duration.eq_iff_nanos.2 (Nat.le_antisymm least most)
  · rintro rfl
    exact ⟨Duration.longest_le_iff.1 (Nat.le_refl _), (Duration.longest_mem times).symm⟩

theorem exists_stages (calm : Calm connector cluster) : ∃ stages, Stages connector cluster limit stages := by
  rcases Call.answers_or_fails calm.connects with ⟨plane, reached⟩ | failed
  · rcases Call.answers_or_fails (calm.lists plane reached.1) with ⟨list, listing⟩ | failed
    · exact ⟨_, .listed reached listing (isLongest_iff.2 rfl) (isLongest_iff.2 rfl)⟩
    · exact ⟨_, .unlisted reached failed⟩
  · exact ⟨_, .unreached failed⟩

theorem askAll_elapsed (start limit : Duration) (plane : ControlPlane) (nodes : List Node) :
    (askAll start limit plane nodes).1 = start +
      .longest ((nodes.filter hasReport).map fun n => (plane.pods n.metadata.name).time limit) +
      .longest ((wanted plane limit nodes).map fun t => (plane.events t).time limit) := by
  rw [← targets_listed]
  simp only [askAll, Call.delay_bounded]
  rfl

theorem elapsed_of_stages (gets : Stages connector cluster limit stages) :
    (course connector limit cluster).elapsed = total stages := by
  cases gets with
  | unreached failed =>
    obtain ⟨f, first⟩ := failed.bounded
    rw [course_of_connection_fault first, Call.delay_bounded]
    exact (Duration.zero_add _).symm
  | unlisted reached failed =>
    obtain ⟨f, second⟩ := failed.bounded
    rw [course_of_listing_fault reached.bounded second, Call.delay_bounded, Call.delay_bounded]
    simp only [total, List.foldl_cons, List.foldl_nil, Duration.zero_add]
  | listed reached listing slowestPods slowestEvents =>
    rw [course_of_answers reached.bounded listing.bounded, isLongest_iff.1 slowestPods, isLongest_iff.1 slowestEvents]
    simp only [total, List.foldl_cons, List.foldl_nil, Duration.zero_add, askAll_elapsed, Call.delay_bounded]

theorem map_sublist_failures {ε α β : Type} {f : α → Except ε β} {late : α → Bool} {g : α → ε}
    (fails : ∀ a, late a → f a = .error (g a)) (items : List α) :
    ((items.filter late).map g).Sublist (failures (items.map f)) := by
  induction items with
  | nil => exact .slnil
  | cons a items ih =>
    cases which : late a with
    | true =>
      rw [List.filter_cons_of_pos which, List.map_cons, List.map_cons, fails a which]
      exact ih.cons_cons _
    | false =>
      rw [List.filter_cons_of_neg (by simp [which]), List.map_cons]
      cases f a with
      | ok => exact ih
      | error e => exact ih.cons e

theorem lateCalls_sublist (plane : ControlPlane) (limit : Duration) (nodes : List Node) :
    (lateCalls plane limit nodes).Sublist (recorded plane limit nodes) := by
  refine (List.Sublist.append ?_ ?_).trans (List.sublist_append_left _ _)
  · apply map_sublist_failures
    intro n late
    rw [podsOf_eq_listingFor, Call.bounded, if_neg (Duration.not_le_iff.2 (by simpa using late))]
    rfl
  · rw [lookups, targets_listed]
    apply map_sublist_failures
    intro t late
    rw [eventsOf_eq_lookupFor, Call.bounded, if_neg (Duration.not_le_iff.2 (by simpa using late))]
    rfl

theorem late_of_fetch {s : Snapshot} {list : Listing Node}
    (taken : (fetchSnapshot connector limits cluster).result = .ok s)
    (reached : (connector cluster).ending = .answer plane) (listing : plane.nodes.ending = .answer list) :
    ((lateCalls plane limits.call list.items).map Failure.message).Sublist s.warnings := by
  obtain ⟨_, _, first, second, rfl⟩ := exists_plane_of_fetch taken
  cases Ending.answer.inj (first.symm.trans reached)
  cases Ending.answer.inj (second.symm.trans listing)
  rw [snapshotOf_eq]
  exact (lateCalls_sublist plane limits.call list.items).map _

end Stages

section Verdicts

variable {connector connector' : Connector} {cluster cluster' : Cluster} {limits : Limits} {stages : List Duration}

theorem elapsed_of_fetch (gets : Stages connector cluster limits.call stages) :
    (fetchSnapshot connector limits cluster).elapsed = .min (total stages) limits.fetch := by
  rw [fetchSnapshot, Course.bounded, elapsed_of_stages gets]
  split
  case isTrue inTime =>
    rw [elapsed_of_stages gets]
    exact congrArg Duration.mk (Nat.min_eq_left inTime).symm
  case isFalse late => exact congrArg Duration.mk (Nat.min_eq_right (Nat.le_of_not_le late)).symm

theorem result_of_late (gets : Stages connector cluster limits.call stages) (late : limits.fetch < total stages) :
    (fetchSnapshot connector limits cluster).result = timedOut cluster limits := by
  rw [fetchSnapshot, Course.bounded, elapsed_of_stages gets, if_neg (Duration.not_le_iff.2 late)]
  rfl

theorem meets_of_stages (gets : Stages connector cluster limits.call stages) :
    Meets connector cluster limits (total stages) (fetchSnapshot connector limits cluster) := by
  have elapsed := elapsed_of_fetch gets
  have recorded : ∀ s plane list, (fetchSnapshot connector limits cluster).result = .ok s →
      (connector cluster).ending = .answer plane → plane.nodes.ending = .answer list →
      ((lateCalls plane limits.call list.items).map Failure.message).Sublist s.warnings :=
    fun _ _ _ => late_of_fetch
  by_cases inTime : total stages ≤ limits.fetch
  · have notLate : ¬ limits.fetch < total stages := Duration.not_lt_iff.2 inTime
    have whole := fetchSnapshot_of_inTime (elapsed_of_stages gets ▸ inTime)
    cases gets with
    | unreached failed =>
      obtain ⟨f, first⟩ := failed.bounded
      have result := congrArg Course.result (whole.trans (course_of_connection_fault first))
      refine ⟨elapsed, ?_, ?_, ?_, ?_, recorded⟩ <;> rw [result]
      · exact iff_of_false nofun notLate
      · exact iff_of_true ⟨_, rfl⟩ ⟨inTime, failed⟩
      · exact iff_of_false nofun fun ⟨_, plane, reached, _⟩ => reached.not_fails failed
      · exact iff_of_false nofun fun ⟨_, plane, list, reached, _⟩ => reached.not_fails failed
    | unlisted reached failed =>
      obtain ⟨f, second⟩ := failed.bounded
      have result := congrArg Course.result (whole.trans (course_of_listing_fault reached.bounded second))
      refine ⟨elapsed, ?_, ?_, ?_, ?_, recorded⟩ <;> rw [result]
      · exact iff_of_false nofun notLate
      · exact iff_of_false nofun fun ⟨_, unreached⟩ => reached.not_fails unreached
      · exact iff_of_true ⟨_, rfl⟩ ⟨inTime, _, reached, failed⟩
      · refine iff_of_false nofun ?_
        rintro ⟨-, plane, list, first, listing⟩
        cases Ending.answer.inj (first.1.symm.trans reached.1)
        exact listing.not_fails failed
    | listed reached listing slowestPods slowestEvents =>
      have result := congrArg Course.result (whole.trans (course_of_answers reached.bounded listing.bounded))
      refine ⟨elapsed, ?_, ?_, ?_, ?_, recorded⟩ <;> rw [result]
      · exact iff_of_false nofun notLate
      · exact iff_of_false nofun fun ⟨_, unreached⟩ => reached.not_fails unreached
      · refine iff_of_false nofun ?_
        rintro ⟨-, plane, first, unlisted⟩
        cases Ending.answer.inj (first.1.symm.trans reached.1)
        exact listing.not_fails unlisted
      · exact iff_of_true ⟨_, rfl⟩ ⟨inTime, _, _, reached, listing⟩
  · have result := result_of_late gets (Duration.not_le_iff.1 inTime)
    refine ⟨elapsed, ?_, ?_, ?_, ?_, recorded⟩ <;> rw [result]
    · exact iff_of_true rfl (Duration.not_le_iff.1 inTime)
    · exact iff_of_false nofun fun verdict => inTime verdict.1
    · exact iff_of_false nofun fun verdict => inTime verdict.1
    · exact iff_of_false nofun fun verdict => inTime verdict.1

theorem takesCourse_of_clear (gets : Stages connector cluster limits.call stages)
    (clear : (plan connector cluster).Clear limits.call) (apart : total stages ≠ limits.fetch) :
    TakesCourse connector limits cluster (fetchSnapshot connector limits cluster) := by
  have outcome := outcome_plan connector limits.call cluster
  have spent := elapsed_of_stages gets
  apply Plan.comes_of_outcome clear
  · rw [outcome, spent]
    exact apart
  · exact Nat.zero_le _
  · intro inTime
    rw [outcome] at inTime ⊢
    rw [fetchSnapshot_of_inTime inTime]
    exact ⟨rfl, rfl⟩
  · intro late
    rw [outcome, spent] at late
    rw [result_of_late gets late, elapsed_of_fetch gets]
    exact ⟨congrArg Duration.mk (Nat.min_eq_right (Nat.le_of_lt late)).symm, rfl⟩

/-- A fetch takes the times of its stages, which come of the slowest calls, and these decide what it comes to. -/
theorem fetch_meets_deadlines (calm : Calm connector cluster) :
    (∃ stages, Stages connector cluster limits.call stages) ∧
    ∀ stages, Stages connector cluster limits.call stages →
      Meets connector cluster limits (total stages) (fetchSnapshot connector limits cluster) ∧
      (∀ connector' cluster', Stages connector' cluster' limits.call stages →
        (fetchSnapshot connector' limits cluster').elapsed = (fetchSnapshot connector limits cluster).elapsed) ∧
      ((plan connector cluster).Clear limits.call → total stages ≠ limits.fetch →
        TakesCourse connector limits cluster (fetchSnapshot connector limits cluster)) := by
  refine ⟨exists_stages calm, fun stages gets => ⟨meets_of_stages gets, ?_, takesCourse_of_clear gets⟩⟩
  intro connector' cluster' same
  rw [elapsed_of_fetch same, elapsed_of_fetch gets]

end Verdicts

theorem deadlines_of_late_pods :
    Calm (reaching (threeNodes latePods)) default ∧
      Meets (reaching (threeNodes latePods)) default usualLimits (.ofSeconds 13)
        (fetchSnapshot (reaching (threeNodes latePods)) usualLimits default) ∧
      TakesCourse (reaching (threeNodes latePods)) usualLimits default
        (fetchSnapshot (reaching (threeNodes latePods)) usualLimits default) := by
  have calm : Calm (reaching (threeNodes latePods)) default := by
    refine ⟨nofun, ?_⟩
    rintro _ ⟨⟩
    exact nofun
  have gets : Stages (reaching (threeNodes latePods)) default usualLimits.call
      [.ofSeconds 1, .ofSeconds 1, .ofSeconds 10, .ofSeconds 1] := by
    have reached : (reaching (threeNodes latePods) default).Answers usualLimits.call (threeNodes latePods) :=
      ⟨rfl, by decide⟩
    exact .listed reached ⟨rfl, by decide⟩ ⟨by decide, Or.inl (by decide)⟩ ⟨by decide, Or.inl (by decide)⟩
  have clear : (plan (reaching (threeNodes latePods)) default).Clear usualLimits.call :=
    ⟨by decide, by decide, by decide, by decide, trivial⟩
  obtain ⟨meets, -, takes⟩ := (fetch_meets_deadlines calm).2 _ gets
  exact ⟨calm, meets, takes clear (by decide)⟩

end Fetch

end ClusterWatch
