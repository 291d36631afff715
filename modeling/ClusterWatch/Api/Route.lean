import ClusterWatch.Net.Percent
import ClusterWatch.Text.Split

namespace ClusterWatch.Api

inductive Route where
  | clusters
  | status (cluster : List Char)
  | history (cluster : List Char)
  | entry (cluster entry : List Char)
  | fullStatus
  | health
  | file
  deriving Repr, DecidableEq

namespace Route

/-- The names of the steps of paths, and the documents behind them. A name at the end of a path is not empty. -/
def ofPath (path : String) : Route :=
  match Text.splitAll '/' path.toList with
  | [[], step] =>
    if step = "clusters".toList then .clusters
    else if step = "healthz".toList then .health
    else .file
  | [[], first, second] =>
    if first = "cluster".toList && second = "full-status".toList then .fullStatus else .file
  | [[], first, cluster, last] =>
    if first ≠ "clusters".toList then .file
    else if last = "status".toList then .status cluster
    else if last = "history".toList then .history cluster
    else .file
  | [[], first, cluster, second, last] =>
    if first = "clusters".toList && second = "history".toList && !last.isEmpty then
      .entry cluster last
    else .file
  | _ => .file

def methods : Route → List String
  | .fullStatus => ["POST"]
  | _ => ["GET", "HEAD"]

end Route

def nameOf (what : String) (cs : List Char) : Except String String :=
  match Net.Percent.decodeText? cs with
  | some name => .ok name
  | none => .error ("Invalid URL: Invalid UTF-8 in `" ++ what ++ "`")

end ClusterWatch.Api
