namespace ClusterWatch.Text

def splitFirst? (mark : List Char) : List Char → Option (List Char × List Char)
  | [] => if mark.isEmpty then some ([], []) else none
  | c :: rest =>
    if mark.isPrefixOf (c :: rest) then some ([], (c :: rest).drop mark.length)
    else (splitFirst? mark rest).map fun (before, after) => (c :: before, after)

def splitLast? (c : Char) (cs : List Char) : Option (List Char × List Char) :=
  let after := (cs.reverse.takeWhile (· ≠ c)).reverse
  if after.length = cs.length then none
  else some (cs.take (cs.length - after.length - 1), after)

def dropEnd (c : Char) (cs : List Char) : List Char :=
  (cs.reverse.dropWhile (· = c)).reverse

def consFirst (c : Char) : List (List Char) → List (List Char)
  | [] => [[c]]
  | part :: parts => (c :: part) :: parts

def splitAll (mark : Char) : List Char → List (List Char)
  | [] => [[]]
  | c :: rest => if c = mark then [] :: splitAll mark rest else consFirst c (splitAll mark rest)

theorem splitAll_ne_nil (mark : Char) : ∀ cs : List Char, splitAll mark cs ≠ []
  | [] => by simp [splitAll]
  | c :: rest => by
    unfold splitAll
    split
    · simp
    · cases splitAll mark rest <;> simp [consFirst]

theorem intercalate_splitAll (mark : Char) :
    ∀ cs : List Char, [mark].intercalate (splitAll mark cs) = cs
  | [] => rfl
  | c :: rest => by
    have whole := intercalate_splitAll mark rest
    have some_part := splitAll_ne_nil mark rest
    unfold splitAll
    cases parts : splitAll mark rest with
    | nil => exact absurd parts some_part
    | cons part others =>
      rw [parts] at whole
      split
      · simp_all [List.intercalate, List.intersperse]
      · cases others <;> simp_all [consFirst, List.intercalate, List.intersperse]

example : splitFirst? [':', '/'] "a:/b:/c".toList = some (['a'], "b:/c".toList) := by decide
example : splitLast? ':' "a:b:c".toList = some ("a:b".toList, ['c']) := by decide
example : splitAll '/' "/a//b".toList = [[], ['a'], [], ['b']] := by decide
example : splitLast? ':' "abc".toList = none := by decide

end ClusterWatch.Text
