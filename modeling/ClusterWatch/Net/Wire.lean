import ClusterWatch.Net.Web

namespace ClusterWatch.Net

def Request.wire (r : Request) : String :=
  let host := ("host", (r.url.authority.map Authority.text).getD "")
  let line (h : String × String) := h.1 ++ ": " ++ h.2 ++ "\r\n"
  "GET " ++ r.url.target ++ " HTTP/1.0\r\n" ++ String.join ((host :: r.headers).map line) ++ "\r\n"

def Response.ofWire? (s : String) : Option Response := do
  let (head, body) ← Text.splitFirst? "\r\n\r\n".toList s.toList
  let status ← (Text.splitAll ' ' (head.takeWhile (· ≠ '\r')))[1]?
  return { status := ← Text.natural? status, body := String.ofList body }

example : Response.ofWire? "HTTP/1.1 404 Not Found\r\nvia: a\r\n\r\nno\r\n\r\n" =
    some ⟨404, "no\r\n\r\n"⟩ := by cbv
example : Response.ofWire? "HTTP/1.1 200 OK\r\n" = none := by cbv

end ClusterWatch.Net
