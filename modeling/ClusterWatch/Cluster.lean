import ClusterWatch.Json.Decoder
import ClusterWatch.Text.Quoted

namespace ClusterWatch

open Json

structure Cluster where
  identifier : String
  address : String
  username : Option String := none
  password : Option String := none
  token : Option String := none
  deriving DecidableEq, Inhabited

inductive Credentials where
  | basic (username : String) (password : Option String)
  | bearer (token : String)
  | anonymous
  deriving DecidableEq

namespace Cluster

/-- A token goes before a user, and an empty one counts as none. -/
def credentials (c : Cluster) : Credentials :=
  match c.token.filter (!·.isEmpty), c.username.filter (!·.isEmpty) with
  | some token, _ => .bearer token
  | none, some username => .basic username c.password
  | none, none => .anonymous

def placeholder : String := "******"

def obfuscated (c : Cluster) : Cluster :=
  { c with
    username := c.username.map fun _ => placeholder
    password := c.password.map fun _ => placeholder
    token := c.token.map fun _ => placeholder }

def summaryOf : Option String → String
  | none => "None"
  | some s => "Some(" ++ Text.quoted s ++ ")"

def summary (c : Cluster) : String :=
  let c := c.obfuscated
  "Cluster \x7b identifier: " ++ Text.quoted c.identifier ++ ", address: " ++ Text.quoted c.address ++
    ", username: " ++ summaryOf c.username ++ ", password: " ++ summaryOf c.password ++
    ", token: " ++ summaryOf c.token ++ " \x7d"

def shape : Record.Shape :=
  [["identifier", "Identifier"], ["address", "Address"], ["username", "Username"],
    ["password", "Password"], ["token", "Token"]]

def encode (c : Cluster) : Json :=
  .object ([("identifier", .string c.identifier), ("address", .string c.address)] ++
    ifSome "username" .string c.username ++ ifSome "password" .string c.password ++
    ifSome "token" .string c.token)

def decode : Decoder Cluster := fun room j => do
  let r ← Record.ofJson? shape room j
  return {
    identifier := ← r.required "identifier" .text
    address := ← r.required "address" .text
    username := ← r.optional "username" .text
    password := ← r.optional "password" .text
    token := ← r.optional "token" .text }

end Cluster

end ClusterWatch
