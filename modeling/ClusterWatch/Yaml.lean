namespace ClusterWatch

inductive Yaml where
  | scalar (text : String) (plain : Bool)
  | sequence (items : List Yaml)
  | mapping (pairs : List (Yaml × Yaml))
  deriving Inhabited, Repr

namespace Yaml

def empty : Yaml := .scalar "" true

def isNull : Yaml → Bool
  | .scalar s plain => plain && ["", "~", "null", "Null", "NULL"].contains s
  | _ => false

def text? : Yaml → Option String
  | .scalar s _ => some s
  | _ => none

end Yaml

end ClusterWatch
