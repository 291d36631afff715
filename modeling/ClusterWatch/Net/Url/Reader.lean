import ClusterWatch.Net.Host
import ClusterWatch.Net.Url

namespace ClusterWatch.Net.Url

def usualPorts : List (String × Nat) :=
  [("http", 80), ("https", 443), ("ws", 80), ("wss", 443), ("ftp", 21)]

def isSpecial (scheme : String) : Bool :=
  scheme = "file" || (usualPorts.lookup scheme).isSome

def isSchemeChar (c : Char) : Bool :=
  c.isAlphanum || c = '+' || c = '-' || c = '.'

def scheme? (cs : List Char) : Option (String × List Char) := do
  let (name, rest) ← Text.splitFirst? [':'] cs
  let first ← name.head?
  if first.isAlpha && name.all isSchemeChar then
    some (String.ofList (name.map Char.toLower), rest)
  else none

def inFragment (c : Char) : Bool :=
  Percent.isControl c || " \"<>`".contains c

def inQuery (special : Bool) (c : Char) : Bool :=
  Percent.isControl c || " \"#<>".contains c || (special && c = '\'')

def inPath (c : Char) : Bool :=
  inFragment c || "#?\x7b\x7d".contains c

def lower (cs : List Char) : String :=
  String.ofList (cs.map Char.toLower)

def stays (segment : List Char) : Bool :=
  [".", "%2e"].contains (lower segment)

def leadsBack (segment : List Char) : Bool :=
  ["..", ".%2e", "%2e.", "%2e%2e"].contains (lower segment)

/-- Walks along a path, with the steps behind in reverse. A last step that leads nowhere or back leaves an empty one. -/
def walk : List (List Char) → List (List Char) → List (List Char)
  | behind, [] => behind.reverse
  | behind, [last] =>
    if leadsBack last then ([] :: behind.tail).reverse
    else if stays last then ([] :: behind).reverse
    else (Percent.encode inPath last :: behind).reverse
  | behind, segment :: rest =>
    if leadsBack segment then walk behind.tail rest
    else if stays segment then walk behind rest
    else walk (Percent.encode inPath segment :: behind) rest

def rooted (cs : List Char) : String :=
  let steps := Text.splitAll '/' (match cs with
    | '/' :: rest => rest
    | rest => rest)
  String.ofList ('/' :: ['/'].intercalate (walk [] steps))

def port? (scheme : String) (cs : List Char) : Option (Option Nat) :=
  if cs.isEmpty then some none
  else match Text.natural? cs with
    | some n =>
      if 65535 < n then none
      else some (if usualPorts.lookup scheme = some n then none else some n)
    | none => none

def host? (scheme : String) (cs : List Char) : Option (String × List Char) :=
  match cs with
  | '[' :: rest => do
    let (inner, behind) ← Text.splitFirst? [']'] rest
    let host ← Host.bracketed? inner
    some (host, behind)
  | cs =>
    let name := cs.takeWhile (· ≠ ':')
    let host := if isSpecial scheme then Host.domain? name else Host.other? name
    host.map fun host => (host, cs.dropWhile (· ≠ ':'))

def authority? (scheme : String) (cs : List Char) : Option Authority := do
  let (who, server) := (Text.splitLast? '@' cs).getD ([], cs)
  let (user, password) := (Text.splitFirst? [':'] who).getD (who, [])
  if server.isEmpty && !isSpecial scheme then
    if who.isEmpty then return { host := "" } else none
  let (host, behind) ← host? scheme server
  let port ← match behind with
    | [] => some none
    | ':' :: digits => if host.isEmpty then none else port? scheme digits
    | _ => none
  return {
    user := String.ofList user
    password := if password.isEmpty then none else some (String.ofList password)
    host, port }

def fileAuthority? (cs : List Char) : Option Authority :=
  if cs.isEmpty || lower cs = "localhost" then some { host := "" }
  else if cs.contains '@' || cs.contains ':' then none
  else (Host.domain? cs).map fun host => { host }

def place? (scheme : String) (cs : List Char) : Option (Option Authority × String) :=
  let special := isSpecial scheme
  let cs := if special then cs.map fun c => if c = '\\' then '/' else c else cs
  let split (cs : List Char) := (cs.takeWhile (· ≠ '/'), cs.dropWhile (· ≠ '/'))
  if scheme = "file" then
    let (server, path) := match cs with
      | '/' :: '/' :: rest => split rest
      | cs => ([], cs)
    (fileAuthority? server).map fun a => (some a, rooted path)
  else if special then
    let (server, path) := split (cs.dropWhile (· = '/'))
    (authority? scheme server).map fun a => (some a, rooted path)
  else match cs with
    | '/' :: '/' :: rest =>
      let (server, path) := split rest
      (authority? scheme server).map fun a => (some a, if path.isEmpty then "" else rooted path)
    | '/' :: _ => some (none, rooted cs)
    | cs => some (none, String.ofList (Percent.encode Percent.isControl cs))

def cutAt (mark : Char) (cs : List Char) : List Char × Option (List Char) :=
  match Text.splitFirst? [mark] cs with
  | some (before, behind) => (before, some behind)
  | none => (cs, none)

def isEdge (c : Char) : Bool := c.toNat ≤ 0x20

def ofText? (s : String) : Option Url := do
  let cs := ((s.toList.dropWhile isEdge).reverse.dropWhile isEdge).reverse
  let cs := cs.filter fun c => c ≠ '\t' && c ≠ '\n' && c ≠ '\r'
  let (scheme, rest) ← scheme? cs
  let (rest, fragment) := cutAt '#' rest
  let (rest, query) := cutAt '?' rest
  let (authority, path) ← place? scheme rest
  let encoded (special : Char → Bool) (cs : List Char) := String.ofList (Percent.encode special cs)
  return {
    scheme, authority, path
    query := query.map (encoded (inQuery (isSpecial scheme)))
    fragment := fragment.map (encoded inFragment) }

end ClusterWatch.Net.Url
