import ClusterWatch.Fetch
import ClusterWatch.Kube.Client

namespace ClusterWatch

def Connector.IgnoresNames (connector : Connector) : Prop :=
  ∀ (c : Cluster) (name : String), connector { c with identifier := name } = connector c

theorem Kube.Client.connector_ignoresNames (web : Net.Web) : Connector.IgnoresNames (connector web) :=
  fun _ _ => rfl

namespace Fetch

inductive Cause where
  | unreachable (reason : String)
  | unlisted (reason : String)
  | late (after : Duration)

def Cause.failure (name : String) : Cause → Failure
  | .unreachable reason => .connection name reason
  | .unlisted reason => .list name reason
  | .late after => .timeout ("snapshot of cluster " ++ name) after

/-- How taking a snapshot can end, but for the name of the cluster; a crash has no cause that is told. -/
abbrev Outcome := Except (Option Cause) Snapshot

def Outcome.named (name : String) (o : Outcome) : Except Mishap Snapshot :=
  o.mapError fun
    | some cause => .failure (cause.failure name)
    | none => .crash

variable {connector : Connector}

theorem exists_course (ignores : connector.IgnoresNames) (limit : Duration) (c : Cluster) :
    ∃ (elapsed : Duration) (asked : List (Duration × Question)) (outcome : Outcome), ∀ name,
      course connector limit { c with identifier := name } = ⟨elapsed, asked, outcome.named name⟩ := by
  have reached (name : String) : connector { c with identifier := name } = connector c := ignores c name
  unfold course
  simp only [reached]
  cases ((connector c).bounded limit).ending with
  | crash message => exact ⟨_, _, .error none, fun _ => rfl⟩
  | fault f => exact ⟨_, _, .error (some (.unreachable f.message)), fun _ => rfl⟩
  | answer plane =>
    dsimp only
    cases (plane.nodes.bounded limit).ending with
    | crash message => exact ⟨_, _, .error none, fun _ => rfl⟩
    | fault f => exact ⟨_, _, .error (some (.unlisted f.message)), fun _ => rfl⟩
    | answer list => exact ⟨_, _, .ok (snapshotOf plane limit list.items), fun _ => rfl⟩

theorem exists_outcome (ignores : connector.IgnoresNames) (limits : Limits) (c : Cluster) :
    ∃ (elapsed : Duration) (asked : List (Duration × Question)) (outcome : Outcome), ∀ name,
      fetchSnapshot connector limits { c with identifier := name } = ⟨elapsed, asked, outcome.named name⟩ := by
  -- The limit on the whole is one more way to fail.
  obtain ⟨elapsed, asked, outcome, course⟩ := exists_course ignores limits.call c
  unfold fetchSnapshot Course.bounded
  simp only [course]
  by_cases inTime : elapsed ≤ limits.fetch
  · simp only [inTime, if_true]
    exact ⟨elapsed, asked, outcome, fun _ => rfl⟩
  · simp only [inTime, if_false]
    exact ⟨_, _, .error (some (.late limits.fetch)), fun _ => rfl⟩

end Fetch

end ClusterWatch
