import ClusterWatch.Yaml
import ClusterWatch.Yaml.Scalar

namespace ClusterWatch.Yaml

/-- Something that has been read, whether it stands on one line, and where it ends. `names` are the nodes that can
be referred to again. -/
structure Found (α : Type) where
  value : α
  oneLine : Bool := false
  place : Place
  names : List (String × Yaml)

def isNameChar (c : Char) : Bool :=
  c.isAlphanum || c = '_' || c = '-'

def properties : Nat → Option String → Place → Option (Option String × Place × Bool)
  | 0, _, _ => none
  | fuel + 1, name, p =>
    match p.rest with
    | '&' :: rest =>
      let word := rest.takeWhile isNameChar
      if word.isEmpty || name.isSome then none
      else
        let after := p.advance (word.length + 1)
        if endsWord after.rest then
          let (next, crossed) := skip false true false false after.column after.rest
          if crossed then some (some (String.ofList word), next, true)
          else properties fuel (some (String.ofList word)) next
        else none
    | '!' :: rest =>
      let word := rest.takeWhile fun c => !isBlank c && c ≠ '\n'
      let after := p.advance (word.length + 1)
      let (next, crossed) := skip false true false false after.column after.rest
      if crossed then some (name, next, true) else properties fuel name next
    | _ => some (name, p, false)

def isPlainStart (flow : Bool) : List Char → Bool
  | [] => false
  | c :: rest =>
    if c = '-' then !endsWord rest
    else if c = '?' || c = ':' then !flow && !endsWord rest
    else !(isBlank c || c = '\n' || isFlowMark c || "#&*!|>'\"%@`".contains c)

def nameIn (names : List (String × Yaml)) (name : Option String) (node : Yaml) :
    List (String × Yaml) :=
  match name with
  | some n => (n, node) :: names
  | none => names

mutual

def inlineNode (flow : Bool) (indent : Nat) : Nat → List (String × Yaml) → Place → Option (Found Yaml)
  | 0, _, _ => none
  | fuel + 1, names, p =>
    match p.rest with
    | '[' :: _ => flowItems fuel names [] (p.advance 1) p.rest
    | '\x7b' :: _ => flowPairs fuel names [] (p.advance 1) p.rest
    | '*' :: rest =>
      let word := rest.takeWhile isNameChar
      (names.lookup (String.ofList word)).map fun node =>
        ⟨node, true, p.advance (word.length + 1), names⟩
    | q :: _ =>
      if q = '"' || q = '\'' then
        (quotedScalar q (p.rest.length + 1) [] [] false (p.advance 1)).map
          fun (text, several, place) => ⟨.scalar (String.ofList text) false, !several, place, names⟩
      else if isPlainStart flow p.rest then
        (plainScalar flow indent (p.rest.length + 1) [] false p).map
          fun (text, several, place) => ⟨.scalar (String.ofList text) true, !several, place, names⟩
      else none
    | [] => none

def flowNode : Nat → List (String × Yaml) → Place → Option (Found Yaml)
  | 0, _, _ => none
  | fuel + 1, names, p => do
    let (name, p, _) ← properties (fuel + 1) none (skip true true false false p.column p.rest).1
    match p.rest with
    | c :: _ =>
      if c = ',' || c = ']' || c = '\x7d' || c = ':' then
        some ⟨.empty, true, p, nameIn names name .empty⟩
      else
        let found ← inlineNode true 0 fuel names p
        some { found with names := nameIn found.names name found.value }
    | [] => none

def flowItems : Nat → List (String × Yaml) → List Yaml → Place → List Char → Option (Found Yaml)
  | 0, _, _, _, _ => none
  | fuel + 1, names, items, p, whole => do
    let (p, _) := skip true true false false p.column p.rest
    match p.rest with
    | ']' :: _ =>
      let oneLine := !((whole.take (whole.length - p.rest.length)).contains '\n')
      some ⟨.sequence items.reverse, oneLine, p.advance 1, names⟩
    | _ =>
      let found ← flowEntry fuel names p
      let (next, _) := skip true true false false found.place.column found.place.rest
      let item := match found.value with
        | (key, none) => key
        | (key, some value) => .mapping [(key, value)]
      match next.rest with
      | ',' :: _ => flowItems fuel found.names (item :: items) (next.advance 1) whole
      | ']' :: _ => flowItems fuel found.names (item :: items) next whole
      | _ => none

def flowPairs : Nat → List (String × Yaml) → List (Yaml × Yaml) → Place → List Char → Option (Found Yaml)
  | 0, _, _, _, _ => none
  | fuel + 1, names, pairs, p, whole => do
    let (p, _) := skip true true false false p.column p.rest
    match p.rest with
    | '\x7d' :: _ =>
      let oneLine := !((whole.take (whole.length - p.rest.length)).contains '\n')
      some ⟨.mapping pairs.reverse, oneLine, p.advance 1, names⟩
    | _ =>
      let found ← flowEntry fuel names p
      let (next, _) := skip true true false false found.place.column found.place.rest
      let pair := (found.value.1, found.value.2.getD .empty)
      match next.rest with
      | ',' :: _ => flowPairs fuel found.names (pair :: pairs) (next.advance 1) whole
      | '\x7d' :: _ => flowPairs fuel found.names (pair :: pairs) next whole
      | _ => none

def flowEntry : Nat → List (String × Yaml) → Place → Option (Found (Yaml × Option Yaml))
  | 0, _, _ => none
  | fuel + 1, names, p => do
    let start := match p.rest with
      | '?' :: rest => if endsWord rest then p.advance 1 else p
      | _ => p
    let key ← flowNode fuel names start
    let (next, _) := skip true true false false key.place.column key.place.rest
    match next.rest with
    | ':' :: _ =>
      let found ← flowNode fuel key.names (next.advance 1)
      some { found with value := (key.value, some found.value) }
    | _ =>
      if p.rest.length = next.rest.length then none
      else some { key with value := (key.value, none) }

/-- A node in a place where columns count, further right than `parent`. A block may begin on the line of the place
only if `compact`, and a sequence may stand at the column of its parent if `level`. -/
def blockNode (compact level : Bool) (parent : Int) :
    Nat → List (String × Yaml) → Place → Option (Found Yaml)
  | 0, _, _ => none
  | fuel + 1, names, from_ => do
    let (p, crossed) := skip false (!compact) false false from_.column from_.rest
    let isItem (p : Place) := match p.rest with
      | '-' :: rest => endsWord rest && !p.atMarker
      | _ => false
    if p.rest.isEmpty || p.atMarker then some ⟨.empty, true, p, names⟩
    else if crossed && level && (p.column : Int) = parent && isItem p then
      blockItems p.column fuel names [] p
    else if crossed && (p.column : Int) ≤ parent then some ⟨.empty, true, p, names⟩
    else
      let (name, q, broken) ← properties (fuel + 1) none p
      let may := crossed || compact || broken
      if broken && level && (q.column : Int) = parent && isItem q then
        let found ← blockItems q.column fuel names [] q
        some { found with names := nameIn found.names name found.value }
      else if q.rest.isEmpty || q.atMarker || (broken && (q.column : Int) ≤ parent) then
        some ⟨.empty, true, q, nameIn names name .empty⟩
      else if isItem q then
        if !may || (name.isSome && !broken) then none
        else
          let found ← blockItems q.column fuel names [] q
          some { found with names := nameIn found.names name found.value }
      else match q.rest with
        | '|' :: _ | '>' :: _ =>
          let (text, after) ← blockScalar (q.rest.head? = some '>') parent (q.advance 1)
          let node := Yaml.scalar (String.ofList text) false
          some ⟨node, false, after, nameIn names name node⟩
        | '?' :: rest =>
          if endsWord rest then
            if may then blockPairs (if broken then q else p).column fuel names [] q else none
          else keyOrNode may parent fuel names name broken p q
        | _ => keyOrNode may parent fuel names name broken p q

/-- A node without columns of its own, or the first key of a mapping. A name on the line of the key is the key's. -/
def keyOrNode (may : Bool) (parent : Int) :
    Nat → List (String × Yaml) → Option String → Bool → Place → Place → Option (Found Yaml)
  | 0, _, _, _, _, _ => none
  | fuel + 1, names, name, broken, p, q => do
    let found ← inlineNode false (parent + 1).toNat fuel names q
    let (next, crossed) := skip false true false false found.place.column found.place.rest
    let isKey := !crossed && match next.rest with
      | ':' :: rest => endsWord rest
      | _ => false
    if isKey then
      if !may || !found.oneLine then none
      else
        let found ← blockPairs (if broken then q else p).column fuel names [] (if broken then q else p)
        some (if broken then { found with names := nameIn found.names name found.value } else found)
    else some { found with names := nameIn found.names name found.value }

def blockItems (column : Nat) : Nat → List (String × Yaml) → List Yaml → Place → Option (Found Yaml)
  | 0, _, _, _ => none
  | fuel + 1, names, items, p => do
    let item ← blockNode true false column fuel names (p.advance 1)
    let (next, _) := skip false true false false item.place.column item.place.rest
    let items := item.value :: items
    let isItem := match next.rest with
      | '-' :: rest => endsWord rest
      | _ => false
    if next.rest.isEmpty || next.atMarker || next.column < column ||
        (next.column = column && !isItem) then
      some ⟨.sequence items.reverse, false, next, item.names⟩
    else if next.column = column then blockItems column fuel item.names items next
    else none

def blockPairs (column : Nat) :
    Nat → List (String × Yaml) → List (Yaml × Yaml) → Place → Option (Found Yaml)
  | 0, _, _, _ => none
  | fuel + 1, names, pairs, p => do
    let pair ← blockPair column fuel names p
    let (next, _) := skip false true false false pair.place.column pair.place.rest
    let pairs := pair.value :: pairs
    if next.rest.isEmpty || next.atMarker || next.column < column then
      some ⟨.mapping pairs.reverse, false, next, pair.names⟩
    else if next.column = column then blockPairs column fuel pair.names pairs next
    else none

def blockPair (column : Nat) : Nat → List (String × Yaml) → Place → Option (Found (Yaml × Yaml))
  | 0, _, _ => none
  | fuel + 1, names, p => do
    let explicit := match p.rest with
      | '?' :: rest => endsWord rest
      | _ => false
    if explicit then
      let key ← blockNode true true column fuel names (p.advance 1)
      let (next, _) := skip false true false false key.place.column key.place.rest
      let valued := next.column = column && match next.rest with
        | ':' :: rest => endsWord rest
        | _ => false
      if valued then
        let found ← blockNode true true column fuel key.names (next.advance 1)
        some { found with value := (key.value, found.value) }
      else some { key with value := (key.value, .empty), place := next }
    else
      let (name, q, broken) ← properties (fuel + 1) none p
      let key ← inlineNode false (column + 1) fuel names q
      let (next, crossed) := skip false true false false key.place.column key.place.rest
      match next.rest with
      | ':' :: rest =>
        if broken || crossed || !key.oneLine || !endsWord rest then none
        else
          let found ← blockNode false true column fuel (nameIn key.names name key.value)
            (next.advance 1)
          some { found with value := (key.value, found.value) }
      | _ => none

end

def isAllowed (c : Char) : Bool :=
  c = '\t' || c = '\n' || (0x20 ≤ c.toNat && c.toNat ≤ 0x7E) || c.toNat = 0x85 ||
    (0xA0 ≤ c.toNat && c.toNat ≤ 0xFFFD && c.toNat ≠ 0xFEFF) || 0x10000 ≤ c.toNat

def normalised : List Char → List Char
  | '\r' :: '\n' :: rest => '\n' :: normalised rest
  | '\r' :: rest => '\n' :: normalised rest
  | '\u0085' :: rest => '\n' :: normalised rest
  | c :: rest => c :: normalised rest
  | [] => []

def skipDirectives : Nat → Place → Option Place
  | 0, _ => none
  | fuel + 1, p =>
    match p.rest with
    | '%' :: rest =>
      if p.column = 0 then
        let (next, _) := skip false false false false 0 (rest.dropWhile (· ≠ '\n'))
        if next.atMarker || next.rest.head? = some '%' then skipDirectives fuel next else none
      else none
    | _ => some p

def isOver : Nat → Place → Bool
  | 0, _ => false
  | fuel + 1, p =>
    let (next, _) := skip false true false false p.column p.rest
    if next.rest.isEmpty then true
    else if next.atMarker && next.rest.head? = some '.' then isOver fuel (next.advance 3)
    else false

def read? (s : String) : Option (Option Yaml) := do
  let cs := match s.toList with
    | '\uFEFF' :: rest => rest
    | cs => cs
  let cs := normalised cs
  if !cs.all isAllowed then none
  let fuel := 4 * cs.length + 8
  let (start, _) := skip false false false false 0 cs
  let p ← skipDirectives fuel start
  if isOver fuel p then return none
  let marked := p.atMarker && p.rest.head? = some '-'
  let found ← blockNode (!marked) false (-1) fuel [] (if marked then p.advance 3 else p)
  if isOver fuel found.place then return some found.value else none

end ClusterWatch.Yaml
