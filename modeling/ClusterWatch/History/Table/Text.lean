import ClusterWatch.History.Table
import ClusterWatch.Json.Printer
import ClusterWatch.Json.Reader
import ClusterWatch.Text.Split

namespace ClusterWatch.History

def Row.encode (r : Row) : Json :=
  .array [.string r.id.text, .string r.cluster, .integer r.nanos.toInt, .string r.payload]

def Row.decode? : Json → Option Row
  | .array [.string id, .string cluster, .integer nanos, .string payload] => do
    let id ← Uuid.ofText? id
    let nanos ← Json.Decoder.integer Int64.minValue.toInt Int64.maxValue.toInt 0 (.integer nanos)
    return ⟨id, cluster, Int64.ofInt nanos, payload⟩
  | _ => none

namespace Table

def heading : String := "history of clusters"

def text (t : Table) : String :=
  "\n".intercalate (heading :: t.rows.map fun r => r.encode.print) ++ "\n"

def readRow? (line : List Char) : Option Row :=
  (Json.read? (String.ofList line)).bind Row.decode?

def ofText? (s : String) : Option Table :=
  match Text.splitAll '\n' s.toList with
  | [[]] => some ∅
  | first :: lines =>
    if first = heading.toList then
      (lines.filter (!·.isEmpty)).foldlM (fun t line => (readRow? line).map t.insert) ∅
    else none
  | [] => none

end Table

end ClusterWatch.History
