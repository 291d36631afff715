import ClusterWatch.Net.Form

namespace ClusterWatch.Net

structure Authority where
  user : String := ""
  password : Option String := none
  host : String
  port : Option Nat := none
  deriving Repr, DecidableEq

structure Url where
  scheme : String
  authority : Option Authority
  path : String
  query : Option String := none
  fragment : Option String := none
  deriving Repr, DecidableEq

namespace Authority

def text (a : Authority) : String :=
  match a.port with
  | some port => a.host ++ ":" ++ toString port
  | none => a.host

end Authority

namespace Url

def hasHost (u : Url) : Bool :=
  match u.authority with
  | some a => !a.host.isEmpty
  | none => false

def target (u : Url) : String :=
  match u.query with
  | some query => u.path ++ "?" ++ query
  | none => u.path

def text (u : Url) : String :=
  let server := match u.authority with
    | some a => "//" ++ a.text
    | none => ""
  let fragment := match u.fragment with
    | some fragment => "#" ++ fragment
    | none => ""
  u.scheme ++ ":" ++ server ++ u.target ++ fragment

def addQuery (u : Url) (pairs : List (String × String)) : Url :=
  let parts := [(u.query.getD "").toList, Form.encode pairs].filter (!·.isEmpty)
  { u with
    query := if parts.isEmpty then none else some (String.ofList (['&'].intercalate parts)) }

def credentials? (u : Url) : Option (String × Option String) := do
  let a ← u.authority
  let user ← Percent.decodeText? a.user.toList
  let password := a.password.bind fun p => Percent.decodeText? p.toList
  if user.isEmpty && password.isNone then none else some (user, password)

end Url

end ClusterWatch.Net
