import ClusterWatch.Quantity
import ClusterWatch.Text.Blank
import ClusterWatch.Text.Digit

namespace ClusterWatch.Quantity

structure Spelling where
  whole : List Char
  fraction : List Char
  suffix : List Char
  deriving Repr, DecidableEq

def isExponent : List Char → Bool
  | e :: '+' :: ds | e :: '-' :: ds => (e = 'e' || e = 'E') && !ds.isEmpty && ds.all Text.isDecimal
  | e :: ds => (e = 'e' || e = 'E') && !ds.isEmpty && ds.all Text.isDecimal
  | [] => false

def isSuffix (cs : List Char) : Bool :=
  cs.all Char.isAlpha || isExponent cs

def Spelling.ofChars? (cs : List Char) : Option Spelling :=
  let (whole, rest) := cs.span Text.isDecimal
  let (fraction, suffix) := match rest with
    | '.' :: rest => rest.span Text.isDecimal
    | rest => ([], rest)
  if isSuffix suffix then some ⟨whole, fraction, suffix⟩ else none

/-- The size of the digits, in bytes: a digit of another script takes more than one. -/
def Spelling.width (s : Spelling) : Nat :=
  (String.ofList (s.whole ++ s.fraction)).utf8ByteSize

def widthLimit : Nat := 30

structure Scale where
  binary : Nat
  decimal : Int
  deriving Repr, DecidableEq

def exponentLimit : Nat := 64

def Scale.ofSuffix? : List Char → Option Scale
  | [] => some ⟨0, 0⟩
  | ['n'] => some ⟨0, -9⟩
  | ['u'] => some ⟨0, -6⟩
  | ['m'] => some ⟨0, -3⟩
  | ['k'] => some ⟨0, 3⟩
  | ['M'] => some ⟨0, 6⟩
  | ['G'] => some ⟨0, 9⟩
  | ['T'] => some ⟨0, 12⟩
  | ['P'] => some ⟨0, 15⟩
  | ['E'] => some ⟨0, 18⟩
  | ['K', 'i'] => some ⟨1, 0⟩
  | ['M', 'i'] => some ⟨2, 0⟩
  | ['G', 'i'] => some ⟨3, 0⟩
  | ['T', 'i'] => some ⟨4, 0⟩
  | ['P', 'i'] => some ⟨5, 0⟩
  | ['E', 'i'] => some ⟨6, 0⟩
  | c :: cs =>
    if c = 'e' ∨ c = 'E' then
      (Text.integer? cs).bind fun e => if e.natAbs ≤ exponentLimit then some ⟨0, e⟩ else none
    else none

def within128 (n : Nat) : Option Nat :=
  if n < 1 <<< 128 then some n else none

/-- The amount, rounded up, of a number of digits in a scale; `none` where it does not fit. The
scaling up comes first, and it has to fit too. -/
def scaled? (digits : Nat) (binary : Nat) (decimal : Int) : Option Nat := do
  let n ← within128 (digits <<< (10 * binary))
  let amount ←
    if 0 ≤ decimal then do
      let factor ← within128 (Nat.pow 10 decimal.toNat)
      within128 (n * factor)
    else
      -- The divisor has more digits than any number of 128 bits.
      if 38 < decimal.natAbs then some 1
      else some ((n + Nat.pow 10 decimal.natAbs - 1) / Nat.pow 10 decimal.natAbs)
  if amount ≤ Amount.ceiling then some amount else none

/-- A quantity of no amount may have any suffix. -/
def Spelling.amount (m : Measure) (s : Spelling) : Except Fault Nat := do
  if s.whole.isEmpty && s.fraction.isEmpty then throw .missingDigits
  if widthLimit < s.width then throw .tooManyDigits
  let some digits := Text.natural? (s.whole ++ s.fraction) | throw .notANumber
  if digits = 0 then return 0
  let some scale := Scale.ofSuffix? s.suffix | throw .unknownSuffix
  let decimal := scale.decimal + m.fineness - s.fraction.length
  let some amount := scaled? digits scale.binary decimal | throw .outOfRange
  return amount

def readChars (m : Measure) (cs : List Char) : Except Fault Nat :=
  match Spelling.ofChars? (Text.trim cs) with
  | none => .error .notAQuantity
  | some s => s.amount m

def read (m : Measure) (s : String) : Except Refusal Nat :=
  (readChars m s.toList).mapError fun fault => ⟨s, fault⟩

end ClusterWatch.Quantity
