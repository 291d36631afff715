namespace ClusterWatch

structure Duration where
  nanos : Nat
  deriving Repr, DecidableEq, Inhabited

namespace Duration

def ofMillis (n : Nat) : Duration := ⟨n * 1000000⟩
def ofSeconds (n : Nat) : Duration := ⟨n * 1000000000⟩

instance : LE Duration := ⟨fun a b => a.nanos ≤ b.nanos⟩
instance : LT Duration := ⟨fun a b => a.nanos < b.nanos⟩
instance (a b : Duration) : Decidable (a ≤ b) := inferInstanceAs (Decidable (a.nanos ≤ b.nanos))
instance (a b : Duration) : Decidable (a < b) := inferInstanceAs (Decidable (a.nanos < b.nanos))
instance : Add Duration := ⟨fun a b => ⟨a.nanos + b.nanos⟩⟩
instance : Zero Duration := ⟨⟨0⟩⟩

def min (a b : Duration) : Duration := ⟨Nat.min a.nanos b.nanos⟩
def max (a b : Duration) : Duration := ⟨Nat.max a.nanos b.nanos⟩

def longest (ds : List Duration) : Duration :=
  ds.foldl max 0

/-- The digits of a part below one, given how many places it has, without the zeros at its end. -/
def fractionChars (places part : Nat) : List Char :=
  let digits := Nat.toDigits 10 part
  let padded := List.replicate (places - digits.length) '0' ++ digits
  (padded.reverse.dropWhile (· = '0')).reverse

def decimalChars (places whole part : Nat) : List Char :=
  Nat.toDigits 10 whole ++ (if part = 0 then [] else '.' :: fractionChars places part)

def text (d : Duration) : String :=
  let n := d.nanos
  if 1000000000 ≤ n then String.ofList (decimalChars 9 (n / 1000000000) (n % 1000000000)) ++ "s"
  else if 1000000 ≤ n then String.ofList (decimalChars 6 (n / 1000000) (n % 1000000)) ++ "ms"
  else if 1000 ≤ n then String.ofList (decimalChars 3 (n / 1000) (n % 1000)) ++ "µs"
  else toString n ++ "ns"

end Duration

end ClusterWatch
