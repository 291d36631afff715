import ClusterWatch.Json
import ClusterWatch.Text.Digit

namespace ClusterWatch.Json

def isSpace (c : Char) : Bool :=
  c = ' ' || c = '\n' || c = '\t' || c = '\r'

def skipSpace (cs : List Char) : List Char :=
  cs.dropWhile isSpace

def hexUnit? (a b c d : Char) : Option Nat := do
  return ((← Text.hexValue? a) * 16 + (← Text.hexValue? b)) * 256 + ((← Text.hexValue? c) * 16 + (← Text.hexValue? d))

def isHighHalf (u : Nat) : Bool := 0xD800 ≤ u && u < 0xDC00
def isLowHalf (u : Nat) : Bool := 0xDC00 ≤ u && u < 0xE000

def simpleEscape? : Char → Option Char
  | '"' => some '"'
  | '\\' => some '\\'
  | '/' => some '/'
  | 'b' => some '\x08'
  | 'f' => some '\x0c'
  | 'n' => some '\n'
  | 'r' => some '\r'
  | 't' => some '\t'
  | _ => none

def joinHalves (high low : Nat) : Char :=
  Char.ofNat (0x10000 + (high - 0xD800) * 0x400 + (low - 0xDC00))

/-- The rest of a string after its opening quote, read onto the characters before it in reverse;
`none` for them once half of a surrogate pair has stood alone. `high` is a first half just read. -/
def stringRest (high : Option Nat) (before : Option (List Char)) :
    List Char → Option (Option String × List Char)
  | [] => none
  | '"' :: rest =>
    some (if high.isSome then none else before.map fun cs => String.ofList cs.reverse, rest)
  | '\\' :: 'u' :: a :: b :: c :: d :: rest =>
    match hexUnit? a b c d, high with
    | none, _ => none
    | some u, some h =>
      if isLowHalf u then stringRest none (before.map (joinHalves h u :: ·)) rest
      else stringRest (if isHighHalf u then some u else none) none rest
    | some u, none =>
      if isHighHalf u then stringRest (some u) before rest
      else if isLowHalf u then stringRest none none rest
      else stringRest none (before.map (Char.ofNat u :: ·)) rest
  | '\\' :: e :: rest =>
    match simpleEscape? e with
    | none => none
    | some c => stringRest none (if high.isSome then none else before.map (c :: ·)) rest
  | c :: rest =>
    if c.toNat < 0x20 || c = '\\' then none
    else stringRest none (if high.isSome then none else before.map (c :: ·)) rest

def stringValue (cs : List Char) : Option (Option String × List Char) :=
  stringRest none (some []) cs

def digits? (cs : List Char) : Option (List Char × List Char) :=
  let (ds, rest) := cs.span Char.isDigit
  if ds.isEmpty then none else some (ds, rest)

def wholePart? : List Char → Option (List Char × List Char)
  | '0' :: rest => if (rest.head?.map Char.isDigit).getD false then none else some (['0'], rest)
  | cs => digits? cs

def fractionPart? : List Char → Option (List Char × List Char)
  | '.' :: rest => (digits? rest).map fun (ds, rest) => ('.' :: ds, rest)
  | cs => some ([], cs)

def exponentPart? : List Char → Option (List Char × List Char)
  | e :: rest =>
    if e = 'e' || e = 'E' then
      match rest with
      | '+' :: rest => (digits? rest).map fun (ds, rest) => (e :: '+' :: ds, rest)
      | '-' :: rest => (digits? rest).map fun (ds, rest) => (e :: '-' :: ds, rest)
      | rest => (digits? rest).map fun (ds, rest) => (e :: ds, rest)
    else some ([], e :: rest)
  | [] => some ([], [])

/-- Minus zero is no integer. -/
def number (negative : Bool) (cs : List Char) : Option (Json × List Char) := do
  let (whole, rest) ← wholePart? cs
  let (fraction, rest) ← fractionPart? rest
  let (exponent, rest) ← exponentPart? rest
  let n := Text.digitsValue whole
  if fraction.isEmpty && exponent.isEmpty && !(negative && n = 0) then
    return (.integer (if negative then -(n : Int) else n), rest)
  let sign := if negative then ['-'] else []
  return (.decimal (String.ofList (sign ++ whole ++ fraction ++ exponent)), rest)

mutual

/-- One value at the front of a text. Each value takes a character at least, so the length of the text is
fuel enough. -/
def value : Nat → List Char → Option (Json × List Char)
  | 0, _ => none
  | fuel + 1, cs =>
    match skipSpace cs with
    | 'n' :: 'u' :: 'l' :: 'l' :: rest => some (.null, rest)
    | 't' :: 'r' :: 'u' :: 'e' :: rest => some (.bool true, rest)
    | 'f' :: 'a' :: 'l' :: 's' :: 'e' :: rest => some (.bool false, rest)
    | '"' :: rest => (stringValue rest).map fun (s, rest) => (s.elim .broken .string, rest)
    | '-' :: rest => number true rest
    | '[' :: rest =>
      match skipSpace rest with
      | ']' :: rest => some (.array [], rest)
      | _ => itemsRest fuel [] rest
    | '\x7b' :: rest =>
      match skipSpace rest with
      | '\x7d' :: rest => some (.object [], rest)
      | _ => membersRest fuel (some []) rest
    | rest => number false rest

def itemsRest : Nat → List Json → List Char → Option (Json × List Char)
  | 0, _, _ => none
  | fuel + 1, before, cs =>
    match value fuel cs with
    | none => none
    | some (j, rest) =>
      match skipSpace rest with
      | ',' :: rest => itemsRest fuel (j :: before) rest
      | ']' :: rest => some (.array (j :: before).reverse, rest)
      | _ => none

/-- The rest of an object from a member on, read onto the members before it in reverse; `none` for them once
a name has had no value. -/
def membersRest : Nat → Option (List (String × Json)) → List Char → Option (Json × List Char)
  | 0, _, _ => none
  | fuel + 1, before, cs =>
    match skipSpace cs with
    | '"' :: rest =>
      match stringValue rest with
      | none => none
      | some (name, rest) =>
        match skipSpace rest with
        | ':' :: rest =>
          match value fuel rest with
          | none => none
          | some (j, rest) =>
            let members := before.bind fun ms => name.map fun name => (name, j) :: ms
            match skipSpace rest with
            | ',' :: rest => membersRest fuel members rest
            | '\x7d' :: rest =>
              some (members.elim .broken fun ms => .object ms.reverse, rest)
            | _ => none
        | _ => none
    | _ => none

end

def read? (s : String) : Option Json :=
  match value (s.length + 1) s.toList with
  | some (j, rest) => if (skipSpace rest).isEmpty then some j else none
  | none => none

end ClusterWatch.Json
