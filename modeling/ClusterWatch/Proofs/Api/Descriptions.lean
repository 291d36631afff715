import ClusterWatch.Api.Details
import ClusterWatch.Cluster
import ClusterWatch.Proofs.Json.Spelling
import Mathlib.Data.String.Basic

namespace ClusterWatch.Api.Details

open Json

variable {d : Details} {cs rest : List Char}

def ofCluster (c : Cluster) : Details where
  address := c.address
  username := c.username
  password := c.password
  token := c.token

inductive IsMember (d : Details) : String → Json → Prop where
  | address : IsMember d "address" (.string d.address)
  | username : IsMember d "username" (ofOption .string d.username)
  | password : IsMember d "password" (ofOption .string d.password)
  | token : IsMember d "token" (ofOption .string d.token)

theorem IsMember.eq {name name' : String} {j k : Json} (own : IsMember d name j) (own' : IsMember d name' k)
    (same : name = name') : j = k := by
  cases own <;> cases own' <;> first | rfl | exact absurd same (by decide)

/-- The members of an object that describes a cluster, in any order and each of them once. Where there is none of
something, its member is null or left out. -/
structure IsDescription (d : Details) (members : List (String × Json)) : Prop where
  own : ∀ m ∈ members, IsMember d m.1 m.2
  once : (members.map Prod.fst).Nodup
  complete : ∀ name j, IsMember d name j → j ≠ .null → name ∈ members.map Prod.fst

theorem bind_eq {α β : Type} {x : Reading α} {f : α → Reading β} {a : α} (read : x cs = .ok (a, rest)) :
    (x >>= f) cs = f a rest := by
  show (x cs >>= fun p => f p.1 p.2) = _
  rw [read]
  rfl

theorem get_bind_eq {α : Type} (f : List Char → Reading α) (cs : List Char) :
    ((get : Reading (List Char)) >>= f) cs = f cs cs := rfl

theorem set_bind_eq {α : Type} (f : PUnit → Reading α) (cs next : List Char) :
    ((set next : Reading PUnit) >>= f) cs = f ⟨⟩ next := rfl

theorem map_eq {α β : Type} {x : Reading α} {f : α → β} {a : α} (read : x cs = .ok (a, rest)) :
    (f <$> x) cs = .ok (f a, rest) := by
  show (do let p ← x cs; pure (f p.1, p.2) : Except Fault _) = _
  rw [read]
  rfl

theorem mark_eq {c : Char} (next : skipSpace cs = c :: rest) : mark c cs = .ok ((), rest) := by
  unfold mark
  rw [get_bind_eq, next]
  simp only [if_true]
  rfl

theorem stringBody_eq {s : String} (ends : stringValue cs = some (some s, rest)) (before : List Char) :
    stringBody cs before = .ok (s, rest) := by
  unfold stringBody
  rw [ends]
  rfl

theorem text_eq {s : String} (spelled : IsSpelled cs rest (.string s)) : text cs = .ok (s, rest) := by
  cases spelled with
  | string opens ends =>
    unfold text
    rw [get_bind_eq, opens]
    exact stringBody_eq ends cs
  | other _ notText => exact absurd rfl (notText s)

theorem nullableText_eq {o : Option String} (spelled : IsSpelled cs rest (ofOption .string o)) :
    nullableText cs = .ok (o, rest) := by
  unfold nullableText
  rw [get_bind_eq]
  cases o with
  | none =>
    cases spelled with
    | null word =>
      rw [word]
      rfl
    | other notNull => exact absurd rfl notNull
  | some s =>
    have read := text_eq spelled
    cases spelled with
    | string opens ends =>
      rw [opens]
      exact map_eq read
    | other _ notText => exact absurd rfl (notText s)

theorem once_eq {α : Type} {read : Reading α} {inValue : List Char} {a : α} (marked : skipSpace cs = ':' :: inValue)
    (told : read inValue = .ok (a, rest)) : once none read cs = .ok (some a, rest) := by
  unfold once
  simp only [Option.isSome_none, Bool.false_eq_true, if_false]
  rw [bind_eq (mark_eq marked)]
  exact map_eq told

def Members.of (d : Details) (names : List String) : Members where
  address := if "address" ∈ names then some d.address else none
  username := if "username" ∈ names then some d.username else none
  password := if "password" ∈ names then some d.password else none
  token := if "token" ∈ names then some d.token else none

theorem Members.of_nil (d : Details) : Members.of d [] = {} := by
  simp [Members.of]

theorem member_eq {names : List String} {name : String} {j : Json} {inValue : List Char} (own : IsMember d name j)
    (fresh : name ∉ names) (marked : skipSpace cs = ':' :: inValue) (spelled : IsSpelled inValue rest j) :
    member (.of d names) name cs = .ok (.of d (name :: names), rest) := by
  cases own with
  | address =>
    have read := once_eq marked (text_eq spelled)
    simp [member, Members.of, fresh, bind_eq read]
    rfl
  | username | password | token =>
    have read := once_eq marked (nullableText_eq spelled)
    simp [member, Members.of, fresh, bind_eq read]
    rfl

theorem begins_bind_eq {α : Type} (f : Members → Reading α) {names : List String} {name : String} {j : Json}
    (begins : BeginsWithMember cs name j rest) (own : IsMember d name j) (fresh : name ∉ names) :
    (do mark '"'; let m ← member (.of d names) (← stringBody (← get)); f m : Reading α) cs =
      f (.of d (name :: names)) rest := by
  obtain ⟨inName, afterName, inValue, _, opens, named, marked, told⟩ := begins
  have read := member_eq own fresh marked (isSpelled_of_value told)
  rw [bind_eq (mark_eq opens), get_bind_eq, bind_eq (stringBody_eq named inName), bind_eq read]

theorem members_eq {members : List (String × Json)} (begins : BeginsWithMembers rest cs members)
    (own : ∀ m ∈ members, IsMember d m.1 m.2) {names : List String}
    (once : ((members.map Prod.fst).reverse ++ names).Nodup) {fuel : Nat} (enough : members.length ≤ fuel) :
    Details.members fuel (.of d names) cs = .ok (.of d ((members.map Prod.fst).reverse ++ names), rest) := by
  -- By induction on the members, each of which is put onto those that have been read.
  induction begins generalizing names fuel with
  | @last cs between name j begins closes =>
    obtain ⟨fuel, rfl⟩ : ∃ n, fuel = n + 1 := Nat.exists_eq_add_one.2 enough
    have fresh : name ∉ names := (List.nodup_cons.1 once).1
    rw [Details.members, begins_bind_eq _ begins (own _ List.mem_cons_self) fresh, get_bind_eq, closes]
    exact bind_eq (mark_eq closes)
  | @more cs between next name j members begins goesOn others ih =>
    obtain ⟨fuel, rfl⟩ : ∃ n, fuel = n + 1 := Nat.exists_eq_add_one.2 (Nat.lt_of_lt_of_le (Nat.succ_pos _) enough)
    rw [List.map_cons, List.reverse_cons, List.append_assoc] at once ⊢
    have fresh : name ∉ names := (List.nodup_cons.1 (List.nodup_append.1 once).2.1).1
    have more := ih (fun m inside => own m (List.mem_cons_of_mem _ inside)) once (Nat.le_of_succ_le_succ enough)
    rw [Details.members, begins_bind_eq _ begins (own _ List.mem_cons_self) fresh, get_bind_eq, goesOn]
    exact (set_bind_eq _ between next).trans more

namespace IsDescription

variable {members : List (String × Json)}

theorem address_mem (describes : IsDescription d members) : "address" ∈ members.map Prod.fst :=
  describes.complete _ _ .address nofun

theorem join_eq (describes : IsDescription d members) {name : String} {o : Option String}
    (own : IsMember d name (ofOption .string o)) :
    (if name ∈ (members.map Prod.fst).reverse then some o else none).join = o := by
  by_cases there : name ∈ (members.map Prod.fst).reverse
  · rw [if_pos there]
    rfl
  · rw [if_neg there]
    cases o with
    | none => rfl
    | some s => exact absurd (List.mem_reverse.2 (describes.complete name _ own nofun)) there

theorem texts (describes : IsDescription d members) : ∀ m ∈ members, ∃ o, m.2 = ofOption .string o := by
  rintro ⟨name, j⟩ member
  cases describes.own _ member with
  | address => exact ⟨some d.address, rfl⟩
  | username | password | token => exact ⟨_, rfl⟩

theorem named_eq (describes : IsDescription d members) (begins : BeginsWithMembers rest cs members) :
    named cs = .ok (d, rest) := by
  have opens : ∃ inName, skipSpace cs = '"' :: inName := by
    cases begins with
    | last member | more member =>
      obtain ⟨inName, _, _, _, opens, -⟩ := member
      exact ⟨inName, opens⟩
  obtain ⟨inName, opens⟩ := opens
  have few := (length_of_members begins describes.texts).1
  have once : ((members.map Prod.fst).reverse ++ []).Nodup := by
    rw [List.append_nil]
    exact List.nodup_reverse.2 describes.once
  have read := members_eq begins describes.own once (Nat.le_succ_of_le (Nat.le_of_lt few))
  rw [List.append_nil, Members.of_nil] at read
  have there : "address" ∈ (members.map Prod.fst).reverse := List.mem_reverse.2 describes.address_mem
  unfold named
  rw [get_bind_eq, opens]
  refine (bind_eq read).trans ?_
  simp only [Members.of, there, if_true, describes.join_eq .username, describes.join_eq .password,
    describes.join_eq .token]
  rfl

end IsDescription

theorem IsDescription.begins {body : String} {members : List (String × Json)} (describes : IsDescription d members)
    (told : Json.read? body = some (.object members)) : ∃ inside rest, skipSpace body.toList = '\x7b' :: inside ∧
      BeginsWithMembers rest inside members ∧ (skipSpace rest).isEmpty = true := by
  unfold Json.read? at told
  split at told
  · rename_i j rest value
    split at told
    · rename_i ends
      cases told
      cases isSpelled_of_value value with
      | empty => exact absurd describes.address_mem List.not_mem_nil
      | @object inside _ opens begins => exact ⟨inside, rest, opens, begins, ends⟩
      | other _ _ notObject => exact absurd rfl (notObject members)
    · cases told
  · cases told

theorem read_of_description {body : String} {members : List (String × Json)}
    (told : Json.read? body = some (.object members)) (describes : IsDescription d members) : read body = .ok d := by
  obtain ⟨inside, rest, opens, begins, ends⟩ := describes.begins told
  have read : whole body.toList = .ok (d, rest) := by
    unfold whole
    rw [get_bind_eq, opens]
    refine (set_bind_eq _ body.toList inside).trans ?_
    refine (bind_eq (describes.named_eq begins)).trans ?_
    refine (get_bind_eq _ rest).trans ?_
    rw [if_pos ends]
    rfl
  show (whole body.toList).map Prod.fst = _
  rw [read]
  rfl

theorem length_le_utf8Len (cs : List Char) : cs.length ≤ String.utf8Len cs := by
  induction cs with
  | nil => exact Nat.le_refl _
  | cons c cs ih =>
    have first := Char.utf8Size_pos c
    rw [String.utf8Len_cons, List.length_cons]
    omega

theorem length_lt_of_description {body : String} {members : List (String × Json)}
    (told : Json.read? body = some (.object members)) (describes : IsDescription d members) {name s : String}
    (member : (name, .string s) ∈ members) : s.length < body.utf8ByteSize := by
  obtain ⟨inside, rest, opens, begins, -⟩ := describes.begins told
  have text : s.length < inside.length := (length_of_members begins describes.texts).2 _ member s rfl
  have space := length_skipSpace_le body.toList
  have bytes : body.toList.length ≤ body.utf8ByteSize := by
    have size := String.utf8ByteSize_ofList body.toList
    rw [String.ofList_toList] at size
    rw [size]
    exact length_le_utf8Len body.toList
  rw [opens, List.length_cons] at space
  omega

end ClusterWatch.Api.Details
