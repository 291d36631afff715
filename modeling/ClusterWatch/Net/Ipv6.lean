import ClusterWatch.Text.Digit
import ClusterWatch.Text.Split

namespace ClusterWatch.Net.Ipv6

def group? (cs : List Char) : Option Nat :=
  if cs.isEmpty || 4 < cs.length then none
  else (cs.mapM Text.hexValue?).map fun vs => vs.foldl (fun n v => n * 16 + v) 0

def octet? (cs : List Char) : Option Nat :=
  if 1 < cs.length && cs.head? = some '0' then none
  else (Text.natural? cs).filter (· ≤ 255)

def pair? (cs : List Char) : Option (List Nat) := do
  match ← (Text.splitAll '.' cs).mapM octet? with
  | [a, b, c, d] => some [a * 256 + b, c * 256 + d]
  | _ => none

def groups? : List (List Char) → Option (List Nat)
  | [] => some []
  | [last] => if last.contains '.' then pair? last else (group? last).map fun g => [g]
  | part :: parts => do return (← group? part) :: (← groups? parts)

def parts (cs : List Char) : List (List Char) :=
  if cs.isEmpty then [] else Text.splitAll ':' cs

def ofText? (cs : List Char) : Option (List Nat) :=
  match Text.splitFirst? [':', ':'] cs with
  | none => (groups? (parts cs)).filter (·.length = 8)
  | some (before, after) => do
    let before ← (parts before).mapM group?
    let after ← groups? (parts after)
    let left := 8 - (before.length + after.length)
    if left = 0 then none else some (before ++ List.replicate left 0 ++ after)

/-- Where the longest row of zeros begins, and its length. The first of several is taken. -/
def longestZeros : List Nat → Nat × Nat
  | [] => (0, 0)
  | g :: gs =>
    let here := ((g :: gs).takeWhile (· = 0)).length
    let (start, length) := longestZeros gs
    if length ≤ here then (0, here) else (start + 1, length)

def row (groups : List Nat) : List Char :=
  [':'].intercalate (groups.map (Nat.toDigits 16))

def text (groups : List Nat) : List Char :=
  let (start, length) := longestZeros groups
  if length < 2 then row groups
  else row (groups.take start) ++ ':' :: ':' :: row (groups.drop (start + length))

theorem length_of_ofText? {cs : List Char} {groups : List Nat} (h : ofText? cs = some groups) :
    groups.length = 8 := by
  unfold ofText? at h
  split at h
  · simpa using (Option.filter_eq_some_iff.mp h).2
  · simp only [Option.bind_eq_bind, Option.bind_eq_some_iff] at h
    obtain ⟨before, _, after, _, h⟩ := h
    split at h
    · contradiction
    · cases h
      simp only [List.length_append, List.length_replicate]
      omega

example : (ofText? "::1".toList).map text = some "::1".toList := by cbv
example : (ofText? "1:0:0:2:0:0:0:0ABC".toList).map text = some "1:0:0:2::abc".toList := by cbv
example : (ofText? "::ffff:127.0.0.1".toList).map text = some "::ffff:7f00:1".toList := by cbv
example : ofText? "1:2:3:4:5:6:7::8".toList = none := by cbv

end ClusterWatch.Net.Ipv6
