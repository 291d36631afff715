import ClusterWatch.Json.Reader
import Mathlib.Data.List.Nodup

namespace ClusterWatch.Json

section Kinds

variable {fuel : Nat} {cs rest : List Char} {j : Json}

theorem exists_of_number {negative : Bool} (read : number negative cs = some (j, rest)) :
    (∃ n, j = .integer n) ∨ ∃ literal, j = .decimal literal := by
  unfold number at read
  simp only [Option.bind_eq_bind, Option.bind_eq_some_iff] at read
  obtain ⟨whole, -, fraction, -, exponent, -, read⟩ := read
  split at read
  · cases read
    exact Or.inl ⟨_, rfl⟩
  · cases read
    exact Or.inr ⟨_, rfl⟩

theorem exists_of_itemsRest {before : List Json} (read : itemsRest fuel before cs = some (j, rest)) :
    ∃ items, j = .array items := by
  induction fuel generalizing before cs with
  | zero =>
    rw [itemsRest] at read
    cases read
  | succ fuel ih =>
    rw [itemsRest] at read
    split at read
    · cases read
    · split at read
      · exact ih read
      · cases read
        exact ⟨_, rfl⟩
      · cases read

end Kinds

def BeginsWithMember (cs : List Char) (name : String) (j : Json) (rest : List Char) : Prop :=
  ∃ inName afterName inValue fuel, skipSpace cs = '"' :: inName ∧ stringValue inName = some (some name, afterName) ∧
    skipSpace afterName = ':' :: inValue ∧ value fuel inValue = some (j, rest)

inductive BeginsWithMembers (rest : List Char) : List Char → List (String × Json) → Prop where
  | last {cs between : List Char} {name : String} {j : Json} (member : BeginsWithMember cs name j between)
      (closes : skipSpace between = '\x7d' :: rest) : BeginsWithMembers rest cs [(name, j)]
  | more {cs between next : List Char} {name : String} {j : Json} {members : List (String × Json)}
      (member : BeginsWithMember cs name j between) (goesOn : skipSpace between = ',' :: next)
      (others : BeginsWithMembers rest next members) : BeginsWithMembers rest cs ((name, j) :: members)

theorem membersRest_cases {fuel : Nat} {before : Option (List (String × Json))} {cs rest : List Char} {j : Json}
    (read : membersRest fuel before cs = some (j, rest)) :
    ∃ (fuel' : Nat) (inName afterName inValue between : List Char) (name : Option String) (v : Json),
      fuel = fuel' + 1 ∧ skipSpace cs = '"' :: inName ∧ stringValue inName = some (name, afterName) ∧
        skipSpace afterName = ':' :: inValue ∧ value fuel' inValue = some (v, between) ∧
        ((∃ next, skipSpace between = ',' :: next ∧
            membersRest fuel' (before.bind fun ms => name.map fun name => (name, v) :: ms) next = some (j, rest)) ∨
          (skipSpace between = '\x7d' :: rest ∧
            j = (before.bind fun ms => name.map fun name => (name, v) :: ms).elim .broken fun ms => .object ms.reverse)) := by
  cases fuel with
  | zero =>
    rw [membersRest] at read
    cases read
  | succ fuel =>
    rw [membersRest] at read
    split at read
    · rename_i inName opens
      split at read
      · cases read
      · rename_i name afterName named
        split at read
        · rename_i inValue marked
          split at read
          · cases read
          · rename_i v between told
            refine ⟨fuel, inName, afterName, inValue, between, name, v, rfl, opens, named, marked, told, ?_⟩
            dsimp only at read
            split at read
            · rename_i next goesOn
              exact Or.inl ⟨next, goesOn, read⟩
            · rename_i closes
              cases read
              exact Or.inr ⟨closes, rfl⟩
            · cases read
        · cases read
    · cases read

theorem eq_broken_of_membersRest {fuel : Nat} {cs rest : List Char} {j : Json}
    (read : membersRest fuel none cs = some (j, rest)) : j = .broken := by
  induction fuel generalizing cs with
  | zero =>
    rw [membersRest] at read
    cases read
  | succ fuel ih =>
    obtain ⟨_, _, _, _, _, _, _, same, -, -, -, -, ⟨_, -, read⟩ | ⟨-, rfl⟩⟩ := membersRest_cases read
    · cases same
      exact ih read
    · rfl

theorem exists_of_membersRest {fuel : Nat} {before : Option (List (String × Json))} {cs rest : List Char} {j : Json}
    (read : membersRest fuel before cs = some (j, rest)) : j = .broken ∨ ∃ members, j = .object members := by
  induction fuel generalizing before cs with
  | zero =>
    rw [membersRest] at read
    cases read
  | succ fuel ih =>
    obtain ⟨_, _, _, _, _, _, _, same, -, -, -, -, ⟨_, -, read⟩ | ⟨-, rfl⟩⟩ := membersRest_cases read
    · cases same
      exact ih read
    · cases before.bind fun _ => _
      · exact Or.inl rfl
      · exact Or.inr ⟨_, rfl⟩

theorem beginsWithMembers_of_membersRest {fuel : Nat} {before all : List (String × Json)} {cs rest : List Char}
    (read : membersRest fuel (some before) cs = some (.object all, rest)) :
    ∃ members, all = before.reverse ++ members ∧ BeginsWithMembers rest cs members := by
  induction fuel generalizing before cs with
  | zero =>
    rw [membersRest] at read
    cases read
  | succ fuel ih =>
    obtain ⟨_, inName, afterName, inValue, between, name, v, same, opens, named, marked, told, ending⟩ :=
      membersRest_cases read
    cases same
    cases name with
    | none =>
      obtain ⟨_, -, read⟩ | ⟨-, same⟩ := ending
      · cases eq_broken_of_membersRest read
      · cases same
    | some name =>
      have member : BeginsWithMember cs name v between := ⟨inName, afterName, inValue, fuel, opens, named, marked, told⟩
      obtain ⟨next, goesOn, read⟩ | ⟨closes, same⟩ := ending
      · obtain ⟨members, rfl, others⟩ := ih read
        refine ⟨(name, v) :: members, ?_, .more member goesOn others⟩
        simp
      · cases same
        exact ⟨[(name, v)], by simp, .last member closes⟩

inductive IsSpelled (cs rest : List Char) : Json → Prop where
  | null (word : skipSpace cs = 'n' :: 'u' :: 'l' :: 'l' :: rest) : IsSpelled cs rest .null
  | string {inside : List Char} {s : String} (opens : skipSpace cs = '"' :: inside)
      (ends : stringValue inside = some (some s, rest)) : IsSpelled cs rest (.string s)
  | empty {inside : List Char} (opens : skipSpace cs = '\x7b' :: inside) (closes : skipSpace inside = '\x7d' :: rest) :
      IsSpelled cs rest (.object [])
  | object {inside : List Char} {members : List (String × Json)} (opens : skipSpace cs = '\x7b' :: inside)
      (others : BeginsWithMembers rest inside members) : IsSpelled cs rest (.object members)
  | other {j : Json} (notNull : j ≠ .null) (notText : ∀ s, j ≠ .string s) (notObject : ∀ members, j ≠ .object members) :
      IsSpelled cs rest j

theorem isSpelled_of_value {fuel : Nat} {cs rest : List Char} {j : Json} (read : value fuel cs = some (j, rest)) :
    IsSpelled cs rest j := by
  cases fuel with
  | zero =>
    rw [value] at read
    cases read
  | succ fuel =>
    rw [value] at read
    split at read
    · rename_i word
      cases read
      exact .null word
    · cases read
      exact .other nofun nofun nofun
    · cases read
      exact .other nofun nofun nofun
    · rename_i inside opens
      obtain ⟨⟨s, _⟩, ends, same⟩ := Option.map_eq_some_iff.1 read
      cases same
      cases s with
      | none => exact .other nofun nofun nofun
      | some s => exact .string opens ends
    · obtain ⟨_, rfl⟩ | ⟨_, rfl⟩ := exists_of_number read <;> exact .other nofun nofun nofun
    · split at read
      · cases read
        exact .other nofun nofun nofun
      · obtain ⟨_, rfl⟩ := exists_of_itemsRest read
        exact .other nofun nofun nofun
    · rename_i inside opens
      split at read
      · rename_i closes
        cases read
        exact .empty opens closes
      · obtain rfl | ⟨all, rfl⟩ := exists_of_membersRest read
        · exact .other nofun nofun nofun
        · obtain ⟨members, same, others⟩ := beginsWithMembers_of_membersRest read
          rw [same]
          exact .object opens others
    · obtain ⟨_, rfl⟩ | ⟨_, rfl⟩ := exists_of_number read <;> exact .other nofun nofun nofun

theorem length_skipSpace_le (cs : List Char) : (skipSpace cs).length ≤ cs.length :=
  (List.dropWhile_sublist isSpace).length_le

theorem length_of_stringRest {high : Option Nat} {before : Option (List Char)} {cs rest : List Char}
    {s : Option String} (read : stringRest high before cs = some (s, rest)) :
    s.elim 0 String.length + rest.length < before.elim 0 List.length + cs.length := by
  -- Each step takes at least as many characters as it puts onto those before.
  have onto (c : Char) : ∀ held : Option (List Char),
      (held.map (c :: ·)).elim 0 List.length ≤ held.elim 0 List.length + 1
    | none => Nat.zero_le _
    | some held => Nat.le_refl _
  have ontoUnless (b : Bool) (c : Char) (held : Option (List Char)) :
      (if b = true then none else held.map (c :: ·)).elim 0 List.length ≤ held.elim 0 List.length + 1 := by
    split
    · exact Nat.zero_le _
    · exact onto c held
  fun_induction stringRest high before cs with
  | case1 | case3 | case9 | case11 => cases read
  | case2 high before inside =>
    cases read
    cases before with
    | none => cases high <;> simp
    | some held =>
      cases high <;> simp
      omega
  | case4 before a b c d inside u h unit low ih =>
    have := ih read
    have := onto (joinHalves h u) before
    simp only [List.length_cons]
    omega
  | case5 before a b c d inside u h unit low ih =>
    have := ih read
    simp only [List.length_cons, Option.elim_none] at this ⊢
    omega
  | case6 before a b c d inside u unit high ih =>
    have := ih read
    simp only [List.length_cons]
    omega
  | case7 before a b c d inside u unit high low ih =>
    have := ih read
    simp only [List.length_cons, Option.elim_none] at this ⊢
    omega
  | case8 before a b c d inside u unit high low ih =>
    have := ih read
    have := onto (Char.ofNat u) before
    simp only [List.length_cons]
    omega
  | case10 high before e inside notUnit c simple ih =>
    have := ih read
    have := ontoUnless high.isSome c before
    simp only [List.length_cons]
    omega
  | case12 high before c inside notQuote notUnit notSimple plain ih =>
    have := ih read
    have := ontoUnless high.isSome c before
    simp only [List.length_cons]
    omega

theorem length_of_text {cs rest : List Char} {o : Option String} (spelled : IsSpelled cs rest (ofOption .string o)) :
    o.elim 0 String.length + rest.length < cs.length := by
  have shorter := length_skipSpace_le cs
  cases o with
  | none =>
    cases spelled with
    | null word =>
      rw [word] at shorter
      simp only [List.length_cons, Option.elim_none] at shorter ⊢
      omega
    | other notNull => exact absurd rfl notNull
  | some s =>
    cases spelled with
    | string opens ends =>
      have inside := length_of_stringRest ends
      rw [opens] at shorter
      simp only [List.length_cons, List.length_nil, Option.elim_some] at shorter inside ⊢
      omega
    | other _ notText => exact absurd rfl (notText s)

theorem length_of_member {cs rest : List Char} {name : String} {o : Option String}
    (begins : BeginsWithMember cs name (ofOption .string o) rest) :
    o.elim 0 String.length + rest.length < cs.length := by
  obtain ⟨inName, afterName, inValue, fuel, opens, named, marked, told⟩ := begins
  have before := length_skipSpace_le cs
  have inside := length_of_stringRest named
  have between := length_skipSpace_le afterName
  have value := length_of_text (isSpelled_of_value told)
  rw [opens] at before
  rw [marked] at between
  simp only [List.length_cons, List.length_nil, Option.elim_some] at before inside between
  omega

/-- Members that are texts or null are fewer than the characters they are written with, and so are the characters of
each text. -/
theorem length_of_members {cs rest : List Char} {members : List (String × Json)}
    (begins : BeginsWithMembers rest cs members) (texts : ∀ m ∈ members, ∃ o, m.2 = ofOption .string o) :
    members.length < cs.length ∧ ∀ m ∈ members, ∀ s, m.2 = .string s → s.length < cs.length := by
  have ofString {s : String} {o : Option String} (same : ofOption .string o = .string s) :
      s.length = o.elim 0 String.length := by
    cases o with
    | none => cases same
    | some t =>
      cases same
      rfl
  induction begins with
  | @last cs between name j member closes =>
    obtain ⟨o, rfl⟩ : ∃ o, j = ofOption .string o := texts _ List.mem_cons_self
    have size := length_of_member member
    have brace := length_skipSpace_le between
    rw [closes] at brace
    simp only [List.length_cons, List.length_nil] at brace ⊢
    refine ⟨by omega, ?_⟩
    intro m inside s same
    obtain rfl := List.mem_singleton.1 inside
    have := ofString same
    omega
  | @more cs between next name j members member goesOn others ih =>
    obtain ⟨o, rfl⟩ : ∃ o, j = ofOption .string o := texts _ List.mem_cons_self
    obtain ⟨fewer, each⟩ := ih fun m inside => texts m (List.mem_cons_of_mem _ inside)
    have size := length_of_member member
    have comma := length_skipSpace_le between
    rw [goesOn] at comma
    simp only [List.length_cons] at comma ⊢
    refine ⟨by omega, ?_⟩
    intro m inside s same
    rcases List.mem_cons.1 inside with rfl | inside
    · have := ofString same
      omega
    · have := each m inside s same
      omega

end ClusterWatch.Json
