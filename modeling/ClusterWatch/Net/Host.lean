import ClusterWatch.Net.Ipv6
import ClusterWatch.Net.Percent

namespace ClusterWatch.Net.Host

def isForbidden (c : Char) : Bool :=
  c.toNat ≤ 0x20 || 0x7E < c.toNat || "#/:<>?@[\\]^|%".contains c

/-- A number as it may stand in an address: decimal, or octal or hexadecimal behind a zero. -/
def number? : List Char → Option Nat
  | [] => none
  | ['0'] => some 0
  | '0' :: x :: ds =>
    if x = 'x' then (ds.mapM Text.hexValue?).map fun vs => vs.foldl (fun n v => n * 16 + v) 0
    else if (x :: ds).all fun c => '0' ≤ c && c ≤ '7' then
      some ((x :: ds).foldl (fun n c => n * 8 + (c.toNat - 48)) 0)
    else none
  | ds => Text.natural? ds

def labels (name : List Char) : List (List Char) :=
  let parts := Text.splitAll '.' name
  if 1 < parts.length && parts.getLast? = some [] then parts.dropLast else parts

def isNumeric (name : List Char) : Bool :=
  match (labels name).getLast? with
  | some l => (!l.isEmpty && l.all Char.isDigit) || (number? l).isSome
  | none => false

/-- The four numbers of an address; its last part may stand for several of them. -/
def numbers? (name : List Char) : Option (List Nat) := do
  let parts := labels name
  if 4 < parts.length then none
  let values ← parts.mapM number?
  let last ← values.getLast?
  let first := values.dropLast
  let places := 4 - first.length
  if first.any (255 < ·) || 1 <<< (8 * places) ≤ last then none
  return first ++ (List.range places).reverse.map fun k => last >>> (8 * k) % 256

def domain? (cs : List Char) : Option String :=
  let name := (Text.Utf8.decodeLossy (Percent.decode cs)).map Char.toLower
  if name.isEmpty || name.any isForbidden then none
  else if isNumeric name then
    (numbers? name).map fun ns => ".".intercalate (ns.map toString)
  else some (String.ofList name)

def bracketed? (cs : List Char) : Option String :=
  (Ipv6.ofText? cs).map fun groups => String.ofList ('[' :: Ipv6.text groups ++ [']'])

def other? (cs : List Char) : Option String :=
  if cs.any fun c => c ≠ '%' && c.toNat ≤ 0x7E && isForbidden c then none
  else some (String.ofList (Percent.encode Percent.isControl cs))

example : domain? "LocalHost".toList = some "localhost" := by cbv
example : domain? "127.1".toList = some "127.0.0.1" := by cbv
example : domain? "1.2.3.256".toList = none := by cbv

end ClusterWatch.Net.Host
