import ClusterWatch.Text.Quoted

namespace ClusterWatch

/-- The greatest amount that is kept; a sum above it counts as it. -/
def Amount.ceiling : Nat := UInt64.size - 1

def Amount.add (a b : Nat) : Nat :=
  min (a + b) Amount.ceiling

theorem Amount.add_le_ceiling (a b : Nat) : Amount.add a b ≤ Amount.ceiling :=
  Nat.min_le_right _ _

namespace Quantity

inductive Measure where
  | cpu
  | memory
  deriving Repr, DecidableEq

def Measure.fineness : Measure → Nat
  | .cpu => 3
  | .memory => 0

def printCpu (millicores : Nat) : String :=
  if millicores % 1000 = 0 then toString (millicores / 1000) else toString millicores ++ "m"

def reduce : Nat → List String → String → Nat × String
  | n, [], unit => (n, unit)
  | n, next :: units, unit => if n % 1024 = 0 then reduce (n / 1024) units next else (n, unit)

def binaryUnits : List String := ["Ki", "Mi", "Gi", "Ti", "Pi", "Ei"]

/-- The numeral of the largest binary unit that divides the amount. -/
def printMemory (bytes : Nat) : String :=
  if bytes = 0 then "0"
  else
    let (n, unit) := reduce bytes binaryUnits ""
    toString n ++ unit

def print : Measure → Nat → String
  | .cpu => printCpu
  | .memory => printMemory

inductive Fault where
  | notAQuantity
  | missingDigits
  | tooManyDigits
  | notANumber
  | unknownSuffix
  | outOfRange
  deriving Repr, DecidableEq

def Fault.reason : Fault → String
  | .notAQuantity => "not a quantity"
  | .missingDigits => "missing digits"
  | .tooManyDigits => "too many digits"
  | .notANumber => "not a number"
  | .unknownSuffix => "unknown suffix"
  | .outOfRange => "out of range"

structure Refusal where
  input : String
  fault : Fault
  deriving Repr, DecidableEq

def Refusal.message (r : Refusal) : String :=
  "invalid quantity " ++ Text.quoted r.input ++ ": " ++ r.fault.reason

end Quantity

end ClusterWatch
