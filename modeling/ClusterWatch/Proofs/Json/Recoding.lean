import ClusterWatch.Proofs.Computations
import ClusterWatch.Proofs.Json.Decoding
import ClusterWatch.Proofs.Json.Tidy

namespace ClusterWatch

namespace Json

variable {α β : Type} {d : Decoder α} {encode : α → Json} {depth : Nat}

/-- What was decoded is decoded again from what it is encoded as, wherever there is so much room. -/
structure Recodes (d : Decoder α) (encode : α → Json) (depth : Nat) : Prop where
  undoes : ∀ room j a, depth ≤ room → d room j = some a → d room (encode a) = some a
  plain : ∀ room j a, j.isExact → d room j = some a → (encode a).isPlain
  solid : ∀ room j a, j ≠ .null → d room j = some a → encode a ≠ .null

/-- Whatever text was read, what it was decoded to is written as a text that is decoded to the same. -/
def IsFaithful (d : Decoder α) (encode : α → Json) : Prop :=
  ∀ text j a, read? text = some j → j.isExact → d textRoom j = some a →
    (read? (encode a).print).bind (d textRoom) = some a

theorem Codes.recodes (h : Codes d encode depth) : Recodes d encode depth where
  undoes room _ a enough _ := h.undoes room a enough
  plain _ _ a _ _ := h.plain a
  solid _ _ a _ _ := h.solid a

namespace Recodes

theorem isFaithful (h : Recodes d encode depth) (enough : depth ≤ textRoom) : IsFaithful d encode := by
  intro text j a _ exact read
  rw [read?_print (h.plain textRoom j a exact read), Option.bind_some]
  exact h.undoes textRoom j a enough read

theorem value : Recodes .value id 0 where
  undoes _ _ _ _ read := (value_of_value read).1
  plain _ _ _ exact read := (value_of_value read).2.1 exact
  solid _ _ _ some read := mt (value_of_value read).2.2.1 some

theorem nullable_of_solid {room : Nat} {j : Json} (solid : j ≠ .null) : d.nullable room j = (d room j).map some := by
  rw [Decoder.nullable.eq_def]
  split
  · exact absurd rfl solid
  · rfl

theorem nullable_cases {room : Nat} {j : Json} {value : Option α} (read : d.nullable room j = some value) :
    (j = .null ∧ value = none) ∨ (j ≠ .null ∧ ∃ a, value = some a ∧ d room j = some a) := by
  by_cases null : j = .null
  · subst null
    cases read
    exact Or.inl ⟨rfl, rfl⟩
  · rw [nullable_of_solid null] at read
    obtain ⟨a, told, rfl⟩ := Option.map_eq_some_iff.1 read
    exact Or.inr ⟨null, a, rfl, told⟩

theorem nullable (h : Recodes d encode depth) : Recodes d.nullable (ofOption encode) depth where
  undoes room j value enough read := by
    obtain ⟨-, rfl⟩ | ⟨solid, a, rfl, told⟩ := nullable_cases read
    · rfl
    · rw [ofOption, nullable_of_solid (h.solid room j a solid told), h.undoes room j a enough told, Option.map_some]
  plain room j value exact read := by
    obtain ⟨-, rfl⟩ | ⟨-, a, rfl, told⟩ := nullable_cases read
    · rfl
    · exact h.plain room j a exact told
  solid room j value solid read := by
    obtain ⟨null, -⟩ | ⟨solid, a, rfl, told⟩ := nullable_cases read
    · exact absurd null solid
    · exact h.solid room j a solid told

theorem exists_of_list {room : Nat} {j : Json} {items : List α} (read : Decoder.list d room j = some items) :
    ∃ below js, room = below + 1 ∧ j = .array js ∧ js.mapM (d below) = some items := by
  cases room with
  | zero => cases read
  | succ below =>
    cases j with
    | array js => exact ⟨below, js, rfl, rfl, read⟩
    | null | bool | integer | decimal | string | object | broken => cases read

theorem list (h : Recodes d encode depth) : Recodes (.list d) (ofList encode) (depth + 1) where
  undoes room j items enough read := by
    obtain ⟨below, js, rfl, rfl, each⟩ := exists_of_list read
    apply mapM_map_some
    intro a member
    obtain ⟨j, _, told⟩ := exists_of_mem_forall₂ (mapM_eq_some_iff_forall₂.1 each) member
    exact h.undoes below j a (by omega) told
  plain room j items exact read := by
    obtain ⟨below, js, rfl, rfl, each⟩ := exists_of_list read
    refine isPlain_array_iff.2 (List.forall_mem_map.2 fun a inside => ?_)
    obtain ⟨j, there, told⟩ := exists_of_mem_forall₂ (mapM_eq_some_iff_forall₂.1 each) inside
    exact h.plain below j a (isExact_array_iff.1 exact j there) told
  solid _ _ _ _ _ := nofun

end Recodes

namespace Record

variable {shape : Shape} {r : Record} {room : Nat} {j : Json} {name : String}

def IsExact (r : Record) : Prop := ∀ m ∈ r.members, m.2.isExact

theorem mem_of_known? {members known : List (String × Json)} (same : known? shape members = some known)
    {m : String × Json} (member : m ∈ known) : ∃ i ∈ members, i.2 = m.2 := by
  simp only [known?, Option.ite_none_right_eq_some, Option.some.injEq] at same
  obtain ⟨_, rfl⟩ := same
  obtain ⟨i, inside, renamed⟩ := List.mem_filterMap.1 member
  obtain ⟨_, _, rfl⟩ := Option.map_eq_some_iff.1 renamed
  exact ⟨i, inside, rfl⟩

theorem of_ofJson? (opened : ofJson? shape room j = some r) : room = r.room + 1 ∧ (j.isExact → r.IsExact) := by
  rw [ofJson?.eq_def] at opened
  split at opened
  · obtain ⟨known, same, rfl⟩ := Option.map_eq_some_iff.1 opened
    refine ⟨rfl, fun exact m member => ?_⟩
    obtain ⟨i, inside, value⟩ := mem_of_known? same member
    exact value ▸ isExact_object_iff.1 exact i inside
  · obtain ⟨_, same⟩ := Option.ite_none_right_eq_some.1 opened
    cases same
    refine ⟨rfl, fun exact m member => ?_⟩
    exact isExact_array_iff.1 exact m.2 (List.of_mem_zip member).2
  · cases opened

theorem of_ofOpenJson? (opened : ofOpenJson? shape room j = some r) :
    room = r.room + 1 ∧ (j.isExact → r.IsExact) := by
  rw [ofOpenJson?.eq_def] at opened
  split at opened
  · obtain ⟨_, opened⟩ := Option.ite_none_right_eq_some.1 opened
    obtain ⟨known, same, rfl⟩ := Option.map_eq_some_iff.1 opened
    refine ⟨rfl, fun exact m member => ?_⟩
    obtain ⟨i, inside, value⟩ := mem_of_known? same member
    exact value ▸ isExact_object_iff.1 exact i inside
  · cases opened

theorem ofOpenJson?_present {shape : Shape} (proper : shape.isProper) {fields : Fields}
    (same : fields.map Prod.fst = shape.names) (room : Nat) :
    ofOpenJson? shape (room + 1) (.object (present fields)) = some (ofFields fields room) := by
  have known : ((present fields).filter fun m => (shape.name? m.1).isNone) = [] := by
    simp only [Shape.isProper, Bool.and_eq_true, decide_eq_true_eq, List.all_eq_true] at proper
    apply List.filter_eq_nil_iff.2
    intro m member
    have inside := mem_names_of_mem_present member
    rw [same] at inside
    rw [proper.2 m.1 inside]
    exact Bool.false_ne_true
  simp only [ofOpenJson?, known, List.all_nil, if_true, known?_present proper same, Option.map_some, ofFields]

section Members

variable {fields : Fields} (h : Recodes d encode depth)

theorem orElse_cases {absent a : α} (read : r.orElse name d absent = some a) :
    a = absent ∨ ∃ m ∈ r.members, d r.room m.2 = some a := by
  unfold orElse at read
  split at read
  · exact Or.inl (Option.some.inj read).symm
  · rename_i j found
    exact Or.inr ⟨(name, j), Keyed.mem_of_lookup found, read⟩

include h

theorem orElse_again (enough : depth ≤ r.room) {absent a : α} (missing : d r.room (encode absent) = some absent)
    (read : r.orElse name d absent = some a) (distinct : (fields.map Prod.fst).Nodup)
    (place : fields.lookup name = some (some (encode a))) : (ofFields fields r.room).orElse name d absent = some a := by
  rw [orElse, lookup_ofFields distinct place]
  obtain rfl | ⟨m, _, told⟩ := orElse_cases read
  · exact missing
  · exact h.undoes r.room m.2 a enough told

theorem plain_orElse (exact : r.IsExact) {absent a : α} (missing : (encode absent).isPlain)
    (read : r.orElse name d absent = some a) : (encode a).isPlain := by
  obtain rfl | ⟨m, member, told⟩ := orElse_cases read
  · exact missing
  · exact h.plain r.room m.2 a (exact m member) told

theorem list_again (enough : depth + 1 ≤ r.room) {items : List α} (read : r.list name d = some items)
    (distinct : (fields.map Prod.fst).Nodup) (place : fields.lookup name = some (some (ofList encode items))) :
    (ofFields fields r.room).list name d = some items := by
  have missing : d.list r.room (ofList encode []) = some [] := by
    obtain ⟨room, same⟩ := Nat.exists_eq_add_of_le' (show 1 ≤ r.room by omega)
    rw [same]
    rfl
  exact orElse_again h.list enough missing read distinct place

theorem plain_list (exact : r.IsExact) {items : List α} (read : r.list name d = some items) :
    (ofList encode items).isPlain :=
  plain_orElse h.list exact rfl read

theorem optional_again (enough : depth ≤ r.room) {value : Option α} (read : r.optional name d = some value)
    (distinct : (fields.map Prod.fst).Nodup) (place : fields.lookup name = some (value.map encode)) :
    (ofFields fields r.room).optional name d = some value := by
  rw [optional, orElse, lookup_ofFields distinct place]
  obtain rfl | ⟨m, _, told⟩ := orElse_cases read
  · rfl
  · cases value with
    | none => rfl
    | some a => exact h.nullable.undoes r.room m.2 (some a) enough told

theorem plain_optional (exact : r.IsExact) {value : Option α} (read : r.optional name d = some value) :
    (value.map encode).all isPlain := by
  have plain := plain_orElse h.nullable exact rfl read
  cases value with
  | none => rfl
  | some a => exact plain

end Members

theorem recodes_of_fields {fields : α → Fields} (written : ∀ a, encode a = .object (present (fields a)))
    (plain : ∀ room j a, j.isExact → d room j = some a → ((fields a).all fun f => f.2.all isPlain) = true)
    (read : ∀ room j a, depth ≤ room → d (room + 1) j = some a → d (room + 1) (.object (present (fields a))) = some a) :
    Recodes d encode (depth + 1) where
  undoes room j a enough told := by
    obtain ⟨room, rfl⟩ := Nat.exists_eq_add_of_le' (show 1 ≤ room by omega)
    rw [written]
    exact read room j a (by omega) told
  plain room j a exact told := by
    rw [written, isPlain_object_present]
    exact plain room j a exact told
  solid _ _ a _ _ := by
    rw [written]
    exact nofun

end Record

end Json

end ClusterWatch
