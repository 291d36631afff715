import ClusterWatch.Json.Decoder
import ClusterWatch.Json.Reader

namespace ClusterWatch.Api

open Json

structure Details where
  address : String
  username : Option String := none
  password : Option String := none
  token : Option String := none
  deriving Repr, DecidableEq

namespace Details

inductive Fault where
  | malformed
  | mismatched
  deriving Repr, DecidableEq

def Fault.message : Fault → String
  | .malformed => "Failed to parse the request body as JSON: it is none"
  | .mismatched =>
    "Failed to deserialize the JSON body into the target type: it has another shape"

abbrev Reading := StateT (List Char) (Except Fault)

def scalarFault (cs : List Char) : Fault :=
  match value (cs.length + 1) cs with
  | some (j, _) => if j.isReadable then .mismatched else .malformed
  | none => .malformed

def stringBody (cs : List Char) : Reading String :=
  match stringValue cs with
  | some (some s, rest) => do set rest; return s
  | _ => throw .malformed

def text : Reading String := do
  match skipSpace (← get) with
  | '"' :: rest => stringBody rest
  | '[' :: _ | '\x7b' :: _ => throw .mismatched
  | rest => throw (scalarFault rest)

def nullableText : Reading (Option String) := do
  match skipSpace (← get) with
  | 'n' :: 'u' :: 'l' :: 'l' :: rest => set rest; return none
  | 'n' :: _ => throw .malformed
  | _ => some <$> text

def skipValue : Reading Unit := do
  let cs ← get
  match value (cs.length + 1) cs with
  | some (_, rest) => set rest
  | none => throw .malformed

def mark (c : Char) : Reading Unit := do
  match skipSpace (← get) with
  | d :: rest => if d = c then set rest else throw .malformed
  | [] => throw .malformed

structure Members where
  address : Option String := none
  username : Option (Option String) := none
  password : Option (Option String) := none
  token : Option (Option String) := none

/-- The value of a known member. One that repeats is a fault before its value is read. -/
def once {α : Type} (held : Option α) (read : Reading α) : Reading (Option α) := do
  if held.isSome then throw .mismatched
  mark ':'
  some <$> read

def member (m : Members) (name : String) : Reading Members := do
  if name = "address" then return { m with address := ← once m.address text }
  else if name = "username" then return { m with username := ← once m.username nullableText }
  else if name = "password" then return { m with password := ← once m.password nullableText }
  else if name = "token" then return { m with token := ← once m.token nullableText }
  else
    mark ':'
    skipValue
    return m

def members : Nat → Members → Reading Members
  | 0, _ => throw .malformed
  | fuel + 1, m => do
    mark '"'
    let m ← member m (← stringBody (← get))
    match skipSpace (← get) with
    | ',' :: rest =>
      set rest
      members fuel m
    | _ =>
      mark '\x7d'
      return m

def named : Reading Details := do
  let cs ← get
  let m ← match skipSpace cs with
    | '\x7d' :: rest => do set rest; pure {}
    | _ => members (cs.length + 1) {}
  let some address := m.address | throw .mismatched
  return {
    address
    username := m.username.join
    password := m.password.join
    token := m.token.join }

def item {α : Type} (isFirst : Bool) (read : Reading α) : Reading (Option α) := do
  match skipSpace (← get) with
  | ']' :: _ => return none
  | _ =>
    if !isFirst then
      mark ','
      if (skipSpace (← get)).head? = some ']' then throw .malformed
    some <$> read

def positional : Reading Details := do
  let some address ← item true text | throw .mismatched
  let username ← item false nullableText
  let password ← item false nullableText
  let token ← item false nullableText
  mark ']'
  return { address, username := username.join, password := password.join, token := token.join }

def whole : Reading Details := do
  let d ← match skipSpace (← get) with
    | '[' :: rest => do set rest; positional
    | '\x7b' :: rest => do set rest; named
    | rest => throw (scalarFault rest)
  if (skipSpace (← get)).isEmpty then return d else throw .malformed

def read (body : String) : Except Fault Details :=
  (whole.run body.toList).map Prod.fst

end Details

end ClusterWatch.Api
