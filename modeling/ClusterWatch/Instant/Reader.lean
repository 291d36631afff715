import ClusterWatch.Instant.Printer
import ClusterWatch.Text.Blank
import ClusterWatch.Text.Digit

namespace ClusterWatch.Instant

structure Fields where
  date : Date
  hour : Nat
  minute : Nat
  second : Nat
  nanos : Nat
  offset : Int

def Fields.instant? (f : Fields) : Option Instant :=
  let secondOfDay := f.hour * 3600 + f.minute * 60 + min f.second 59
  let nanos := f.nanos + (if f.second = 60 then 1000000000 else 0)
  if f.date.isValid && f.hour ≤ 23 && f.minute ≤ 59 && f.second ≤ 60 && f.offset.natAbs ≤ 86399 then
    (ofParts? (f.date.toDays * secondsPerDay + secondOfDay) nanos).bind fun t =>
      ofParts? (t.seconds - f.offset) nanos
  else none

def digits? (low high : Nat) (cs : List Char) : Option (Nat × List Char) :=
  let ds := (cs.take high).takeWhile Char.isDigit
  if ds.length < low then none else some (Text.digitsValue ds, cs.drop ds.length)

def allDigits? (cs : List Char) : Option (Nat × List Char) :=
  digits? 1 cs.length cs

def char? (c : Char) : List Char → Option (List Char)
  | d :: rest => if d = c then some rest else none
  | [] => none

/-- Nine digits of the second count, and further ones do not. -/
def fraction? : List Char → Option (Nat × List Char)
  | '.' :: rest =>
    (digits? 1 9 rest).map fun (n, after) =>
      (n * Nat.pow 10 (9 - (rest.length - after.length)), after.dropWhile Char.isDigit)
  | cs => some (0, cs)

def separator? : List Char → Option (List Char)
  | c :: rest => if c = 'T' || c = 't' || c = ' ' then some rest else none
  | [] => none

/-- An offset: a letter for none, or a sign, two digits of hours and two of minutes, with what `between` lets
stand between them. -/
def offset? (between : List Char → Option (List Char)) : List Char → Option (Int × List Char)
  | [] => none
  | c :: rest =>
    if c = 'Z' || c = 'z' then some (0, rest)
    else if c = '+' || c = '-' || c = '\u2212' then do
      let (hours, rest) ← digits? 2 2 rest
      let rest ← between rest
      let (minutes, rest) ← digits? 2 2 rest
      if minutes > 59 then none
      let seconds : Int := hours * 3600 + minutes * 60
      return (if c = '+' then seconds else -seconds, rest)
    else none

def exactFields? (cs : List Char) : Option (Fields × List Char) := do
  let (year, cs) ← digits? 4 4 cs
  let (month, cs) ← digits? 2 2 (← char? '-' cs)
  let (day, cs) ← digits? 2 2 (← char? '-' cs)
  let (hour, cs) ← digits? 2 2 (← separator? cs)
  let (minute, cs) ← digits? 2 2 (← char? ':' cs)
  let (second, cs) ← digits? 2 2 (← char? ':' cs)
  let (nanos, cs) ← fraction? cs
  let (offset, cs) ← offset? (char? ':') cs
  return (⟨⟨year, month, day⟩, hour, minute, second, nanos, offset⟩, cs)

def ofText? (s : String) : Option Instant := do
  let (fields, rest) ← exactFields? s.toList
  if rest.isEmpty then fields.instant? else none

def skipBlanks (cs : List Char) : List Char :=
  cs.dropWhile Text.isBlank

def year? (cs : List Char) : Option (Int × List Char) :=
  match skipBlanks cs with
  | '-' :: rest => (allDigits? rest).map fun (n, rest) => (-(n : Int), rest)
  | '+' :: rest => (allDigits? rest).map fun (n, rest) => ((n : Int), rest)
  | cs => (digits? 1 4 cs).map fun (n, rest) => ((n : Int), rest)

def field? (cs : List Char) : Option (Nat × List Char) :=
  digits? 1 2 (skipBlanks cs)

def mark? (c : Char) (cs : List Char) : Option (List Char) :=
  char? c (skipBlanks cs)

def skipColons (cs : List Char) : Option (List Char) :=
  some (cs.dropWhile fun c => c = ':' || Text.isBlank c)

def looseOffset? (cs : List Char) : Option (Int × List Char) :=
  if (cs.take 3).map Char.toUpper = ['U', 'T', 'C'] then some (0, cs.drop 3)
  else offset? skipColons cs

def looseFields? (cs : List Char) : Option (Fields × List Char) := do
  let (year, cs) ← year? cs
  let (month, cs) ← field? (← mark? '-' cs)
  let (day, cs) ← field? (← mark? '-' cs)
  let (hour, cs) ← field? (← separator? cs)
  let (minute, cs) ← field? (← mark? ':' cs)
  let (second, cs) ← field? (← mark? ':' cs)
  let (nanos, cs) ← fraction? cs
  let (offset, cs) ← looseOffset? (skipBlanks cs)
  return (⟨⟨year, month, day⟩, hour, minute, second, nanos, offset⟩, cs)

def ofLooseText? (s : String) : Option Instant := do
  let (fields, rest) ← looseFields? s.toList
  if (skipBlanks rest).isEmpty then fields.instant? else none

end ClusterWatch.Instant
