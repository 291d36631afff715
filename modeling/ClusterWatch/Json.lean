import ClusterWatch.Dictionary

namespace ClusterWatch

inductive Json where
  | null
  | bool (b : Bool)
  | integer (n : Int)
  | decimal (literal : String)
  | string (s : String)
  | array (items : List Json)
  | object (members : List (String × Json))
  /-- A string or an object in whose text half of a surrogate pair stands alone. It has an end, so it
  can be passed over, but no value. -/
  | broken
  deriving Inhabited, Repr

namespace Json

mutual

def depth : Json → Nat
  | .array items => depthItems items + 1
  | .object members => depthMembers members + 1
  | _ => 0
termination_by structural j => j

def depthItems : List Json → Nat
  | [] => 0
  | j :: rest => max j.depth (depthItems rest)
termination_by structural js => js

def depthMembers : List (String × Json) → Nat
  | [] => 0
  | (_, j) :: rest => max j.depth (depthMembers rest)
termination_by structural ms => ms

end

mutual

/-- Members in the order of their names, each name once: the last value counts. -/
def tidy : Json → Json
  | .array items => .array (tidyItems items)
  | .object members => .object (Dictionary.ofList (tidyMembers members)).entries
  | j => j
termination_by structural j => j

def tidyItems : List Json → List Json
  | [] => []
  | j :: rest => j.tidy :: tidyItems rest
termination_by structural js => js

def tidyMembers : List (String × Json) → List (String × Json)
  | [] => []
  | (name, j) :: rest => (name, j.tidy) :: tidyMembers rest
termination_by structural ms => ms

end

def member? : Json → String → Option Json
  | .object members, name => members.lookup name
  | _, _ => none

def unlessEmpty (name : String) (s : String) : List (String × Json) :=
  if s.isEmpty then [] else [(name, .string s)]

def ifSome {α : Type} (name : String) (encode : α → Json) (value : Option α) : List (String × Json) :=
  match value with
  | none => []
  | some a => [(name, encode a)]

def ofOption {α : Type} (encode : α → Json) : Option α → Json
  | none => .null
  | some a => encode a

def ofList {α : Type} (encode : α → Json) (items : List α) : Json :=
  .array (items.map encode)

def ofDictionary {α : Type} (encode : α → Json) (d : Dictionary α) : Json :=
  .object (d.map encode).entries

end Json

end ClusterWatch
