import ClusterWatch.Cluster
import ClusterWatch.Duration
import ClusterWatch.Kube.Target

namespace ClusterWatch

open Kube

inductive ClientFault where
  | build (reason : String)
  | transport (url reason : String)
  | unauthorized (url : String) (code : Nat)
  | status (url : String) (code : Nat) (body : String)
  | undecodable (url reason : String)
  | timeout (after : Duration)
  deriving Repr, DecidableEq

def ClientFault.message : ClientFault → String
  | .build reason => "building HTTP client: " ++ reason
  | .transport url reason => "request to " ++ url ++ " failed: " ++ reason
  | .unauthorized url code => url ++ " rejected the credentials (" ++ toString code ++ ")"
  | .status url code body => "GET " ++ url ++ " returned " ++ toString code ++ ": " ++ body
  | .undecodable url reason => "decoding response from " ++ url ++ ": " ++ reason
  | .timeout after => "no response within " ++ after.text

inductive Ending (α : Type) where
  | answer (a : α)
  | fault (f : ClientFault)
  | crash (message : String)
  deriving Repr

def crashText (message : String) : String :=
  "task # panicked with message " ++ Text.quoted message

namespace Ending

variable {α : Type}

/-- The answer, or the reason that there is none, of a call made on a task of its own: there a crash is
a reason like others. -/
def result : Ending α → Except String α
  | .answer a => .ok a
  | .fault f => .error f.message
  | .crash message => .error (crashText message)

def ofExcept : Except ClientFault α → Ending α
  | .ok a => .answer a
  | .error f => .fault f

end Ending

structure Call (α : Type) where
  delay : Duration
  ending : Ending α
  deriving Repr

namespace Call

variable {α : Type}

def bounded (limit : Duration) (c : Call α) : Call α :=
  if c.delay ≤ limit then c else ⟨limit, .fault (.timeout limit)⟩

theorem bounded_delay_le (limit : Duration) (c : Call α) : (c.bounded limit).delay ≤ limit := by
  unfold bounded
  split
  · assumption
  · exact Nat.le_refl _

theorem bounded_of_le {limit : Duration} {c : Call α} (h : c.delay ≤ limit) :
    c.bounded limit = c := by
  simp [bounded, h]

end Call

structure ControlPlane where
  nodes : Call (Listing Node)
  pods : String → Call (Listing Pod)
  events : Target → Call (Listing Event)

/-- How control planes are reached: by a first call, which asks for nothing but proves access. -/
abbrev Connector := Cluster → Call ControlPlane

inductive Question where
  | version
  | nodes
  | pods (node : String)
  | events (target : Target)
  deriving Repr, DecidableEq

end ClusterWatch
