import ClusterWatch.Duration

namespace ClusterWatch

inductive Failure where
  | connection (cluster reason : String)
  | list (cluster reason : String)
  | partialFetch (entity reason : String)
  | aggregation (subject reason : String)
  | store (reason : String)
  | notFound (what : String)
  | timeout (operation : String) (after : Duration)
  | invalidInput (reason : String)
  | configuration (reason : String)
  | server (reason : String)
  deriving Repr, DecidableEq

def Failure.message : Failure → String
  | .connection cluster reason => "cannot connect to cluster " ++ cluster ++ ": " ++ reason
  | .list cluster reason => "cannot list nodes of cluster " ++ cluster ++ ": " ++ reason
  | .partialFetch entity reason => "partial fetch failure for " ++ entity ++ ": " ++ reason
  | .aggregation subject reason => "cannot aggregate resources of " ++ subject ++ ": " ++ reason
  | .store reason => "history store error: " ++ reason
  | .notFound what => what ++ " not found"
  | .timeout operation after => operation ++ " timed out after " ++ after.text
  | .invalidInput reason => "invalid input: " ++ reason
  | .configuration reason => "configuration error: " ++ reason
  | .server reason => "server error: " ++ reason

inductive Mishap where
  | failure (f : Failure)
  | crash
  deriving Repr, DecidableEq

instance : Coe Failure Mishap := ⟨.failure⟩

end ClusterWatch
