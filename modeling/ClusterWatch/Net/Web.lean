import ClusterWatch.Json.Decoder
import ClusterWatch.Json.Reader
import ClusterWatch.Net.Base64
import ClusterWatch.Net.Url.Reader

namespace ClusterWatch.Net

structure Request where
  url : Url
  headers : List (String × String) := []
  deriving Repr, DecidableEq

structure Response where
  status : Nat
  body : String
  deriving Repr, DecidableEq

abbrev Web := Request → Option Response

inductive SendFault where
  | malformed
  | foreign (url : Url)
  | unreachable (url : Url)
  deriving Repr, DecidableEq

def SendFault.message : SendFault → String
  | .malformed => "builder error"
  | .foreign url => "builder error for url (" ++ url.text ++ ")"
  | .unreachable url => "error sending request for url (" ++ url.text ++ ")"

def undecodableBody : String := "error decoding response body"

namespace Response

def content (r : Response) : String :=
  if r.status = 204 || r.status = 304 then "" else r.body

def read? {α : Type} (r : Response) (d : Json.Decoder α) : Option α :=
  (Json.read? r.content).bind (d Json.textRoom)

end Response

def isHeaderValue (s : String) : Bool :=
  s.toList.all fun c => c = '\t' || (0x20 ≤ c.toNat && c.toNat ≠ 0x7F)

def basicAuthorization (user : String) (password : Option String) : String × String :=
  ("authorization", "Basic " ++ Base64.encodeText (user ++ ":" ++ password.getD ""))

namespace Request

def ofText (address : String) (headers query : List (String × String)) : Except SendFault Request := do
  let some url := Url.ofText? address | throw .malformed
  if !url.hasHost then throw (.foreign url)
  if !headers.all fun h => isHeaderValue h.2 then throw .malformed
  let url := url.addQuery query
  if url.scheme ≠ "http" && url.scheme ≠ "https" then throw (.foreign url)
  let asker := url.credentials?.toList.map fun (user, password) => basicAuthorization user password
  return { url, headers := asker ++ headers }

end Request

def Web.answer (web : Web) (r : Request) : Except SendFault Response :=
  match web r with
  | some response => .ok response
  | none => .error (.unreachable r.url)

end ClusterWatch.Net
