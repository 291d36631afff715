import ClusterWatch.Json.Decoder
import ClusterWatch.Proofs.Dictionary
import ClusterWatch.Proofs.Json.RoundTrip
import Mathlib.Data.List.Basic
import Mathlib.Data.List.Forall2

namespace ClusterWatch

namespace Json

variable {α β : Type}

/-- The decoder gives back what was encoded, wherever there is so much room, and what was encoded is printed as
itself. -/
structure Codes (d : Decoder α) (encode : α → Json) (depth : Nat) : Prop where
  undoes : ∀ room a, depth ≤ room → d room (encode a) = some a
  plain : ∀ a, (encode a).isPlain
  solid : ∀ a, encode a ≠ .null

theorem mapM_map_some {f : α → Json} {g : Json → Option α} (items : List α)
    (h : ∀ a ∈ items, g (f a) = some a) : (items.map f).mapM g = some items := by
  induction items with
  | nil => rfl
  | cons a items ih =>
    have first := h a List.mem_cons_self
    have rest := ih fun a member => h a (List.mem_cons_of_mem _ member)
    simp [first, rest]

theorem mapM_eq_some_iff_forall₂ {γ δ : Type} {g : γ → Option δ} {xs : List γ} {ys : List δ} :
    xs.mapM g = some ys ↔ List.Forall₂ (fun x y => g x = some y) xs ys := by
  induction xs generalizing ys with
  | nil => simp [eq_comm]
  | cons x xs ih =>
    simp only [List.mapM_cons, Option.bind_eq_bind, Option.bind_eq_some_iff, List.forall₂_cons_left_iff, ih]
    constructor
    · rintro ⟨y, first, ys, rest, same⟩
      cases same
      exact ⟨y, ys, first, rest, rfl⟩
    · rintro ⟨y, ys, first, rest, rfl⟩
      exact ⟨y, first, ys, rest, rfl⟩

/-- The members of an object may stand in any order. -/
theorem dictionary_of_perm {d : Decoder α} {room : Nat} {members members' : List (String × Json)}
    (distinct : (members.map Prod.fst).Nodup) (same : members'.Perm members) {entries : Dictionary α}
    (read : Decoder.dictionary d room (.object members) = some entries) :
    Decoder.dictionary d room (.object members') = some entries := by
  cases room with
  | zero => cases read
  | succ room =>
    obtain ⟨es, told, rfl⟩ := Option.map_eq_some_iff.1 read
    have each := mapM_eq_some_iff_forall₂.1 told
    obtain ⟨es', each', perm⟩ := List.perm_comp_forall₂ same each
    have names : es.map Prod.fst = members.map Prod.fst := by
      rw [← List.forall₂_eq_eq_eq, List.forall₂_map_left_iff, List.forall₂_map_right_iff]
      refine each.flip.imp fun e m given => ?_
      obtain ⟨a, -, rfl⟩ := Option.map_eq_some_iff.1 given
      rfl
    have kept : Dictionary.ofList es = Dictionary.ofList es' :=
      Dictionary.ofList_of_perm (names ▸ distinct) perm.symm
    rw [kept]
    exact Option.map_eq_some_iff.2 ⟨es', mapM_eq_some_iff_forall₂.2 each', rfl⟩

namespace Codes

theorem text : Codes Decoder.text .string 0 where
  undoes _ _ _ := rfl
  plain _ := rfl
  solid _ := nofun

theorem flag : Codes Decoder.flag .bool 0 where
  undoes _ _ _ := rfl
  plain _ := rfl
  solid _ := nofun

theorem integer_of_within {low high n : Int} (above : low ≤ n) (below : n ≤ high) (room : Nat) :
    Decoder.integer low high room (.integer n) = some n := by
  simp [Decoder.integer, above, below]

theorem int32 : Codes Decoder.int32 (fun n => .integer n.toInt) 0 where
  undoes room n _ := by
    rw [Decoder.int32, integer_of_within n.minValue_le_toInt n.toInt_le, Option.map_some,
      Int32.ofInt_toInt]
  plain _ := rfl
  solid _ := nofun

theorem uint32 : Codes Decoder.uint32 (fun n => .integer n.toNat) 0 where
  undoes room n _ := by
    have below : (n.toNat : Int) ≤ UInt32.size - 1 := Int.le_sub_one_of_lt (Int.ofNat_lt.2 n.toNat_lt)
    rw [Decoder.uint32, integer_of_within (Int.natCast_nonneg _) below]
    simp
  plain _ := rfl
  solid _ := nofun

theorem uint64 : Codes Decoder.uint64 (fun n => .integer n.toNat) 0 where
  undoes room n _ := by
    have below : (n.toNat : Int) ≤ UInt64.size - 1 := Int.le_sub_one_of_lt (Int.ofNat_lt.2 n.toNat_lt)
    rw [Decoder.uint64, integer_of_within (Int.natCast_nonneg _) below]
    simp
  plain _ := rfl
  solid _ := nofun

theorem list {d : Decoder α} {encode : α → Json} {depth : Nat} (h : Codes d encode depth) :
    Codes (.list d) (Json.ofList encode) (depth + 1) where
  undoes room items enough := by
    obtain ⟨room, rfl⟩ := Nat.exists_eq_add_of_le' (show 1 ≤ room by omega)
    exact mapM_map_some items fun a _ => h.undoes room a (by omega)
  plain _ := isPlain_array_iff.2 (List.forall_mem_map.2 fun a _ => h.plain a)
  solid _ := nofun

theorem dictionary {d : Decoder α} {encode : α → Json} {depth : Nat} (h : Codes d encode depth) :
    Codes (.dictionary d) (Json.ofDictionary encode) (depth + 1) where
  undoes room entries enough := by
    obtain ⟨room, rfl⟩ := Nat.exists_eq_add_of_le' (show 1 ≤ room by omega)
    have each : ∀ es : List (String × α), (es.map fun e => (e.1, encode e.2)).mapM
        (fun m => (d room m.2).map fun a => (m.1, a)) = some es := by
      intro es
      induction es with
      | nil => rfl
      | cons e es ih =>
        have first := h.undoes room e.2 (by omega)
        simp [first, ih]
    simp only [Decoder.dictionary, ofDictionary, Dictionary.map, each, Option.map_some,
      Dictionary.ofList_entries]
  plain _ := isPlain_object_iff.2 (List.forall_mem_map.2 fun e _ => h.plain e.2)
  solid _ := nofun

theorem dictionary_of_perm {d : Decoder α} {encode : α → Json} {depth room : Nat} (h : Codes d encode depth)
    (enough : depth + 1 ≤ room) {entries : Dictionary α} {members : List (String × Json)}
    (same : members.Perm (entries.map encode).entries) :
    Decoder.dictionary d room (.object members) = some entries := by
  have distinct : ((entries.map encode).entries.map Prod.fst).Nodup :=
    (entries.map encode).ordered.map _ fun _ _ below => String.ne_of_lt below
  exact Json.dictionary_of_perm distinct same (h.dictionary.undoes room entries enough)

theorem undoes_nullable {d : Decoder α} {encode : α → Json} {depth : Nat} (h : Codes d encode depth)
    {room : Nat} (enough : depth ≤ room) (value : Option α) :
    d.nullable room (ofOption encode value) = some value := by
  cases value with
  | none => rfl
  | some a =>
    have read := h.undoes room a enough
    rw [ofOption, Decoder.nullable.eq_def]
    split
    · rename_i null
      exact absurd null (h.solid a)
    · rw [read, Option.map_some]

theorem plain_ofOption {d : Decoder α} {encode : α → Json} {depth : Nat} (h : Codes d encode depth)
    (value : Option α) : (ofOption encode value).isPlain := by
  cases value with
  | none => rfl
  | some a => exact h.plain a

theorem read_print {d : Decoder α} {encode : α → Json} {depth : Nat} (h : Codes d encode depth)
    (enough : depth ≤ textRoom) (a : α) : (read? (encode a).print).bind (d textRoom) = some a := by
  rw [read?_print (h.plain a), Option.bind_some]
  exact h.undoes textRoom a enough

end Codes

abbrev Fields := List (String × Option Json)

def present (fields : Fields) : List (String × Json) :=
  fields.filterMap fun f => f.2.map fun j => (f.1, j)

theorem present_append (fields more : Fields) :
    present (fields ++ more) = present fields ++ present more :=
  List.filterMap_append

theorem present_some (name : String) (j : Json) (fields : Fields) :
    present ((name, some j) :: fields) = (name, j) :: present fields :=
  rfl

theorem present_none (name : String) (fields : Fields) :
    present ((name, none) :: fields) = present fields :=
  rfl

theorem mem_names_of_mem_present {fields : Fields} {m : String × Json} (member : m ∈ present fields) :
    m.1 ∈ fields.map Prod.fst := by
  obtain ⟨f, inside, shape⟩ := List.mem_filterMap.1 member
  cases value : f.2 with
  | none => simp [value] at shape
  | some j =>
    simp only [value, Option.map_some, Option.some.injEq] at shape
    exact List.mem_map.2 ⟨f, inside, by rw [← shape]⟩

theorem names_present_sublist (fields : Fields) :
    ((present fields).map Prod.fst).Sublist (fields.map Prod.fst) := by
  induction fields with
  | nil => exact List.Sublist.slnil
  | cons f fields ih =>
    obtain ⟨name, value⟩ := f
    cases value with
    | none => exact List.Sublist.cons _ ih
    | some j => exact List.Sublist.cons_cons _ ih

theorem lookup_present {fields : Fields} (distinct : (fields.map Prod.fst).Nodup) (name : String) :
    (present fields).lookup name = (fields.lookup name).join := by
  induction fields with
  | nil => rfl
  | cons f fields ih =>
    obtain ⟨first, value⟩ := f
    obtain ⟨fresh, rest⟩ := List.nodup_cons.1 distinct
    have others := ih rest
    by_cases same : name = first
    · subst same
      have absent : (present fields).lookup name = none := by
        apply List.lookup_eq_none_iff.2
        intro m member
        have inside := mem_names_of_mem_present member
        simp only [bne_iff_ne, ne_eq]
        rintro rfl
        exact fresh inside
      cases value with
      | none => simp [present_none, absent]
      | some j => simp [present_some]
    · have skip : (name == first) = false := by simpa using same
      cases value with
      | none => simpa [present_none, List.lookup_cons, skip] using others
      | some j => simpa [present_some, List.lookup_cons, skip] using others

theorem isPlain_object_present (fields : Fields) :
    (Json.object (present fields)).isPlain = fields.all fun f => f.2.all isPlain := by
  rw [isPlain]
  induction fields with
  | nil => rfl
  | cons f fields ih =>
    obtain ⟨name, value⟩ := f
    cases value with
    | none => simpa [present_none] using ih
    | some j => simp [present_some, arePlainMembers, ih]

def unlessBlank (s : String) : Option Json :=
  if s.isEmpty then none else some (.string s)

theorem unlessEmpty_eq (name s : String) : unlessEmpty name s = present [(name, unlessBlank s)] := by
  unfold unlessEmpty unlessBlank
  split <;> rfl

@[simp] theorem all_isPlain_unlessBlank (s : String) : (unlessBlank s).all isPlain = true := by
  unfold unlessBlank
  split <;> rfl

theorem Codes.all_isPlain_map {d : Decoder α} {encode : α → Json} {depth : Nat} (h : Codes d encode depth)
    (value : Option α) : (value.map encode).all isPlain = true := by
  cases value with
  | none => rfl
  | some a => exact h.plain a

theorem ifSome_eq (name : String) (encode : α → Json) (value : Option α) :
    ifSome name encode value = present [(name, value.map encode)] := by
  cases value <;> rfl

namespace Record

def Shape.names (shape : Shape) : List String :=
  shape.filterMap List.head?

def Shape.isProper (shape : Shape) : Bool :=
  shape.names.Nodup && shape.names.all fun name => shape.name? name = some name

theorem known?_present {shape : Shape} (proper : shape.isProper) {fields : Fields}
    (same : fields.map Prod.fst = shape.names) : known? shape (present fields) = some (present fields) := by
  simp only [Shape.isProper, Bool.and_eq_true, decide_eq_true_eq, List.all_eq_true] at proper
  have distinct : ((present fields).map Prod.fst).Nodup := by
    apply (names_present_sublist fields).nodup
    rw [same]
    exact proper.1
  have each : ((present fields).filterMap fun m => (shape.name? m.1).map fun name => (name, m.2)) =
      present fields := by
    rw [← List.filterMap_some (l := present fields), List.filterMap_filterMap]
    apply List.filterMap_congr
    intro m member
    have inside := mem_names_of_mem_present member
    rw [same] at inside
    simp [proper.2 m.1 inside]
  simp only [known?, each, if_pos distinct]

def ofFields (fields : Fields) (room : Nat) : Record :=
  ⟨room, present fields, false⟩

theorem ofJson?_present {shape : Shape} (proper : shape.isProper) {fields : Fields}
    (same : fields.map Prod.fst = shape.names) (room : Nat) :
    ofJson? shape (room + 1) (.object (present fields)) = some (ofFields fields room) := by
  simp only [ofJson?, known?_present proper same, Option.map_some, ofFields]

section Members

variable {fields : Fields} {room : Nat} {name : String} {d : Decoder α} {encode : α → Json} {depth : Nat}

theorem lookup_ofFields (distinct : (fields.map Prod.fst).Nodup) {value : Option Json}
    (place : fields.lookup name = some value) : (ofFields fields room).members.lookup name = value := by
  rw [ofFields, lookup_present distinct, place, Option.join_some]

theorem required_ofFields (h : Codes d encode depth) (enough : depth ≤ room) {a : α}
    (distinct : (fields.map Prod.fst).Nodup) (place : fields.lookup name = some (some (encode a))) :
    (ofFields fields room).required name d = some a := by
  rw [required, lookup_ofFields distinct place]
  exact h.undoes room a enough

theorem orElse_ofFields (h : Codes d encode depth) (enough : depth ≤ room) {a absent : α}
    (distinct : (fields.map Prod.fst).Nodup) (place : fields.lookup name = some (some (encode a))) :
    (ofFields fields room).orElse name d absent = some a := by
  rw [orElse, lookup_ofFields distinct place]
  exact h.undoes room a enough

theorem text_ofFields {s : String} (distinct : (fields.map Prod.fst).Nodup)
    (place : fields.lookup name = some (unlessBlank s)) : (ofFields fields room).text name = some s := by
  rw [text, orElse, lookup_ofFields distinct place, unlessBlank]
  by_cases blank : s.isEmpty
  · have same : s = "" := String.isEmpty_iff.1 blank
    simp [same]
  · simp [blank, Decoder.text]

theorem optional_ofFields (h : Codes d encode depth) (enough : depth ≤ room) {value : Option α}
    (distinct : (fields.map Prod.fst).Nodup)
    (place : fields.lookup name = some (value.map encode)) :
    (ofFields fields room).optional name d = some value := by
  rw [optional, orElse, lookup_ofFields distinct place]
  cases value with
  | none => rfl
  | some a => exact h.undoes_nullable enough (some a)

theorem nullable_ofFields (h : Codes d encode depth) (enough : depth ≤ room) {value : Option α}
    (distinct : (fields.map Prod.fst).Nodup)
    (place : fields.lookup name = some (some (ofOption encode value))) :
    (ofFields fields room).nullable name d = some value := by
  rw [nullable, lookup_ofFields distinct place]
  exact h.undoes_nullable enough value

end Members

theorem codes_of_fields {encode : α → Json} {fields : α → Fields} {d : Decoder α} {depth : Nat}
    (written : ∀ a, encode a = .object (present (fields a)))
    (plain : ∀ a, ((fields a).all fun f => f.2.all isPlain) = true)
    (read : ∀ room a, depth ≤ room → d (room + 1) (.object (present (fields a))) = some a) :
    Codes d encode (depth + 1) where
  undoes room a enough := by
    obtain ⟨room, rfl⟩ := Nat.exists_eq_add_of_le' (show 1 ≤ room by omega)
    rw [written]
    exact read room a (by omega)
  plain a := by
    rw [written, isPlain_object_present]
    exact plain a
  solid a := by
    rw [written]
    exact nofun

end Record

end Json

end ClusterWatch
