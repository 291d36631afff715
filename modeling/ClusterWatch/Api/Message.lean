import ClusterWatch.Failure
import ClusterWatch.Json.Printer
import ClusterWatch.Net.Percent
import ClusterWatch.Text.Split

namespace ClusterWatch.Api

structure Request where
  method : String := "GET"
  path : String
  query : Option String := none
  headers : List (String × String) := []
  body : String := ""
  deriving Repr, DecidableEq

namespace Request

def splitTarget (target : String) : String × Option String :=
  let cs := target.toList.takeWhile (· ≠ '#')
  match Text.splitFirst? ['?'] cs with
  | some (path, query) => (String.ofList path, some (String.ofList query))
  | none => (String.ofList cs, none)

def header? (r : Request) (name : String) : Option String :=
  (r.headers.find? fun h => h.1.map Char.toLower = name).map Prod.snd

end Request

structure Response where
  status : Nat
  headers : List (String × String) := []
  body : String := ""
  deriving Repr, DecidableEq

namespace Response

def ofJson (j : Json) (status : Nat := 200) : Response :=
  ⟨status, [("content-type", "application/json")], j.print⟩

def ofText (s : String) (status : Nat := 200) : Response :=
  ⟨status, [("content-type", "text/plain; charset=utf-8")], s⟩

def statusOf : Failure → Nat
  | .invalidInput _ => 400
  | .notFound _ => 404
  | .timeout .. => 504
  | _ => 500

def ofFailure (f : Failure) : Response :=
  ofJson (.object [("error", .string f.message)]) (statusOf f)

def notAllowed (methods : List String) : Response :=
  ⟨405, [("allow", ",".intercalate methods)], ""⟩

def notFound : Response := ⟨404, [], ""⟩

def head (r : Response) : Response := { r with body := "" }

end Response

end ClusterWatch.Api
