import ClusterWatch.Json
import ClusterWatch.Text.Digit

namespace ClusterWatch.Json

def textRoom : Nat := 127

/-- One past the greatest number that rounds to a finite binary number of 64 bits. -/
def finiteBound : Nat := 1 <<< 1024 - 1 <<< 970

def literalParts (literal : String) : Nat × Int :=
  let (mantissa, exponent) := literal.toList.span fun c => c != 'e' && c != 'E'
  let (whole, fraction) := mantissa.span (· != '.')
  let digits := (whole ++ fraction).filter Char.isDigit
  let shift := (Text.integer? (exponent.drop 1)).getD 0
  (Text.digitsValue digits, shift - (fraction.length - 1 : Nat))

def isFinite (literal : String) : Bool :=
  let (m, e) := literalParts literal
  let size : Int := (Nat.toDigits 10 m).length + e
  if m = 0 || size < 309 then true
  else if 310 < size then false
  else if 0 ≤ e then m * Nat.pow 10 e.toNat < finiteBound
  else m < finiteBound * Nat.pow 10 e.natAbs

mutual

def isReadable : Json → Bool
  | .broken => false
  | .integer n => n.natAbs < finiteBound
  | .decimal literal => isFinite literal
  | .array items => areReadable items
  | .object members => areReadableMembers members
  | _ => true
termination_by structural j => j

def areReadable : List Json → Bool
  | [] => true
  | j :: rest => j.isReadable && areReadable rest
termination_by structural js => js

def areReadableMembers : List (String × Json) → Bool
  | [] => true
  | (_, j) :: rest => j.isReadable && areReadableMembers rest
termination_by structural ms => ms

end

abbrev Decoder (α : Type) := Nat → Json → Option α

namespace Decoder

variable {α β : Type}

def text : Decoder String
  | _, .string s => some s
  | _, _ => none

def flag : Decoder Bool
  | _, .bool b => some b
  | _, _ => none

def integer (low high : Int) : Decoder Int
  | _, .integer n => if low ≤ n && n ≤ high then some n else none
  | _, _ => none

def int32 : Decoder Int32 := fun room j =>
  (integer Int32.minValue.toInt Int32.maxValue.toInt room j).map Int32.ofInt

def uint32 : Decoder UInt32 := fun room j =>
  (integer 0 (UInt32.size - 1) room j).map fun n => UInt32.ofNat n.toNat

def uint64 : Decoder UInt64 := fun room j =>
  (integer 0 (UInt64.size - 1) room j).map fun n => UInt64.ofNat n.toNat

def value : Decoder Json := fun room j =>
  if j.depth ≤ room && j.isReadable then some j.tidy else none

def nullable (d : Decoder α) : Decoder (Option α)
  | _, .null => some none
  | room, j => (d room j).map some

def list (d : Decoder α) : Decoder (List α)
  | room + 1, .array items => items.mapM (d room)
  | _, _ => none

/-- Of several members of one name the last counts, but each has to be readable. -/
def dictionary (d : Decoder α) : Decoder (Dictionary α)
  | room + 1, .object members =>
    (members.mapM fun m => (d room m.2).map fun a => (m.1, a)).map Dictionary.ofList
  | _, _ => none

/-- One of several names, alone or as the only member of an object that says no more. -/
def choice (names : List (String × α)) : Decoder α
  | _, .string s => names.lookup s
  | _ + 1, .object [(s, .null)] => names.lookup s
  | _, _ => none

end Decoder

structure Record where
  room : Nat
  members : List (String × Json)
  positional : Bool

namespace Record

variable {α : Type}

abbrev Shape := List (List String)

def Shape.name? (shape : Shape) (spelling : String) : Option String :=
  (shape.find? (·.contains spelling)).bind List.head?

def known? (shape : Shape) (members : List (String × Json)) : Option (List (String × Json)) :=
  let known := members.filterMap fun (spelling, j) => (shape.name? spelling).map fun name => (name, j)
  if (known.map Prod.fst).Nodup then some known else none

def ofJson? (shape : Shape) : Nat → Json → Option Record
  | room + 1, .object members => (known? shape members).map fun known => ⟨room, known, false⟩
  | room + 1, .array items =>
    if items.length ≤ shape.length then some ⟨room, (shape.filterMap List.head?).zip items, true⟩
    else none
  | _, _ => none

/-- A record that is open to members of other kinds: it has to be an object, and its unknown members have to
be readable too. -/
def ofOpenJson? (shape : Shape) : Nat → Json → Option Record
  | room + 1, .object members =>
    let unknown := members.filter fun (spelling, _) => (shape.name? spelling).isNone
    if unknown.all fun (_, j) => j.depth ≤ room && j.isReadable then
      (known? shape members).map fun known => ⟨room, known, false⟩
    else none
  | _, _ => none

def required (r : Record) (name : String) (d : Decoder α) : Option α :=
  (r.members.lookup name).bind (d r.room)

def orElse (r : Record) (name : String) (d : Decoder α) (absent : α) : Option α :=
  match r.members.lookup name with
  | none => some absent
  | some j => d r.room j

/-- A member that may be missing where members have names, but not where they have places. -/
def nullable (r : Record) (name : String) (d : Decoder α) : Option (Option α) :=
  match r.members.lookup name with
  | none => if r.positional then none else some none
  | some j => d.nullable r.room j

def text (r : Record) (name : String) : Option String :=
  r.orElse name .text ""

def list (r : Record) (name : String) (d : Decoder α) : Option (List α) :=
  r.orElse name d.list []

def optional (r : Record) (name : String) (d : Decoder α) : Option (Option α) :=
  r.orElse name d.nullable none

end Record

end ClusterWatch.Json
