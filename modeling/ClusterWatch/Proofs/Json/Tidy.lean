import ClusterWatch.Json.Decoder
import ClusterWatch.Proofs.Dictionary
import ClusterWatch.Proofs.Json.RoundTrip
import Mathlib.Algebra.Group.Int.Defs

namespace ClusterWatch

theorem Dictionary.mem_of_mem_ofList {α : Type} {es : List (String × α)} {e : String × α}
    (member : e ∈ (ofList es).entries) : e ∈ es := by
  have general : ∀ d : Dictionary α, e ∈ (es.foldl (fun d e => d.insert e.1 e.2) d).entries → e ∈ d.entries ∨ e ∈ es := by
    clear member
    induction es with
    | nil => exact fun _ inside => Or.inl inside
    | cons first rest ih =>
      intro d inside
      rcases ih _ inside with placed | later
      · rcases mem_of_mem_place placed with rfl | before
        · exact Or.inr List.mem_cons_self
        · exact Or.inl before
      · exact Or.inr (List.mem_cons_of_mem _ later)
  exact (general ∅ member).resolve_left List.not_mem_nil

namespace Json

theorem inside_out {P : Json → Prop} (null : P .null) (bool : ∀ b, P (.bool b)) (integer : ∀ n, P (.integer n))
    (decimal : ∀ literal, P (.decimal literal)) (string : ∀ s, P (.string s))
    (array : ∀ items, (∀ j ∈ items, P j) → P (.array items))
    (object : ∀ members, (∀ m ∈ members, P m.2) → P (.object members)) (broken : P .broken) (j : Json) : P j := by
  refine @Json.rec P (fun items => ∀ j ∈ items, P j) (fun members => ∀ m ∈ members, P m.2) (fun m => P m.2)
    null bool integer decimal string array object broken ?_ ?_ ?_ ?_ ?_ j
  · exact fun j member => absurd member List.not_mem_nil
  · exact fun j items first rest => List.forall_mem_cons.2 ⟨first, rest⟩
  · exact fun m member => absurd member List.not_mem_nil
  · exact fun m members first rest => List.forall_mem_cons.2 ⟨first, rest⟩
  · exact fun name j inside => inside

section Parts

variable {items : List Json} {members : List (String × Json)}

theorem tidy_array : (Json.array items).tidy = .array (items.map tidy) := by
  rw [tidy]
  congr 1
  induction items with
  | nil => rfl
  | cons j rest ih => rw [tidyItems, ih, List.map_cons]

theorem tidy_object : (Json.object members).tidy =
    .object (Dictionary.ofList (members.map fun m => (m.1, m.2.tidy))).entries := by
  have each : tidyMembers members = members.map fun m => (m.1, m.2.tidy) := by
    induction members with
    | nil => rfl
    | cons m rest ih => rw [tidyMembers, ih, List.map_cons]
  rw [tidy, each]

theorem depth_array_le_iff {n : Nat} : (Json.array items).depth ≤ n + 1 ↔ ∀ j ∈ items, j.depth ≤ n := by
  rw [depth, Nat.succ_le_succ_iff]
  induction items with
  | nil => simp [depthItems]
  | cons j rest ih => rw [depthItems, Nat.max_le, ih, List.forall_mem_cons]

theorem depth_object_le_iff {n : Nat} : (Json.object members).depth ≤ n + 1 ↔ ∀ m ∈ members, m.2.depth ≤ n := by
  rw [depth, Nat.succ_le_succ_iff]
  induction members with
  | nil => simp [depthMembers]
  | cons m rest ih => rw [depthMembers, Nat.max_le, ih, List.forall_mem_cons]

theorem isReadable_array_iff : (Json.array items).isReadable ↔ ∀ j ∈ items, j.isReadable := by
  rw [isReadable]
  exact all_iff_forall_mem rfl fun _ _ => rfl

theorem isReadable_object_iff : (Json.object members).isReadable ↔ ∀ m ∈ members, m.2.isReadable := by
  rw [isReadable]
  exact all_iff_forall_mem rfl fun _ _ => rfl

end Parts

mutual

/-- No number is read as a binary fraction: all of them are integers of 64 bits, with a sign or without. -/
def isExact : Json → Bool
  | .integer n => -2 ^ 63 ≤ n && n < 2 ^ 64
  | .decimal _ => false
  | .array items => areExact items
  | .object members => areExactMembers members
  | _ => true
termination_by structural j => j

def areExact : List Json → Bool
  | [] => true
  | j :: rest => j.isExact && areExact rest
termination_by structural js => js

def areExactMembers : List (String × Json) → Bool
  | [] => true
  | (_, j) :: rest => j.isExact && areExactMembers rest
termination_by structural ms => ms

end

theorem isExact_array_iff {items : List Json} : (Json.array items).isExact ↔ ∀ j ∈ items, j.isExact := by
  rw [isExact]
  exact all_iff_forall_mem rfl fun _ _ => rfl

theorem isExact_object_iff {members : List (String × Json)} :
    (Json.object members).isExact ↔ ∀ m ∈ members, m.2.isExact := by
  rw [isExact]
  exact all_iff_forall_mem rfl fun _ _ => rfl

theorem isPlain_of_isExact {j : Json} (exact : j.isExact) (readable : j.isReadable) : j.isPlain := by
  induction j using inside_out with
  | array items ih =>
    rw [isExact_array_iff] at exact
    rw [isReadable_array_iff] at readable
    exact isPlain_array_iff.2 fun j member => ih j member (exact j member) (readable j member)
  | object members ih =>
    rw [isExact_object_iff] at exact
    rw [isReadable_object_iff] at readable
    exact isPlain_object_iff.2 fun m member => ih m member (exact m member) (readable m member)
  | decimal literal => cases exact
  | broken => cases readable
  | null | bool | integer | string => rfl

theorem tidy_keeps {P : Json → Prop} (array : ∀ items, P (.array items) ↔ ∀ j ∈ items, P j)
    (object : ∀ members, P (.object members) ↔ ∀ m ∈ members, P m.2) {j : Json} (holds : P j) : P j.tidy := by
  induction j using inside_out with
  | array items ih =>
    rw [tidy_array, array]
    intro j member
    obtain ⟨i, inside, rfl⟩ := List.mem_map.1 member
    exact ih i inside ((array items).1 holds i inside)
  | object members ih =>
    rw [tidy_object, object]
    intro m member
    obtain ⟨i, inside, rfl⟩ := List.mem_map.1 (Dictionary.mem_of_mem_ofList member)
    exact ih i inside ((object members).1 holds i inside)
  | null | bool | integer | decimal | string | broken => exact holds

theorem depth_tidy_le {j : Json} {n : Nat} (shallow : j.depth ≤ n) : j.tidy.depth ≤ n := by
  induction j using inside_out generalizing n with
  | array items ih =>
    have nested : 0 < (Json.array items).depth := Nat.succ_pos _
    obtain ⟨n, rfl⟩ := Nat.exists_eq_add_one.2 (Nat.lt_of_lt_of_le nested shallow)
    rw [tidy_array, depth_array_le_iff]
    intro j member
    obtain ⟨i, inside, rfl⟩ := List.mem_map.1 member
    exact ih i inside (depth_array_le_iff.1 shallow i inside)
  | object members ih =>
    have nested : 0 < (Json.object members).depth := Nat.succ_pos _
    obtain ⟨n, rfl⟩ := Nat.exists_eq_add_one.2 (Nat.lt_of_lt_of_le nested shallow)
    rw [tidy_object, depth_object_le_iff]
    intro m member
    obtain ⟨i, inside, rfl⟩ := List.mem_map.1 (Dictionary.mem_of_mem_ofList member)
    exact ih i inside (depth_object_le_iff.1 shallow i inside)
  | null | bool | integer | decimal | string | broken => exact shallow

theorem tidy_tidy (j : Json) : j.tidy.tidy = j.tidy := by
  induction j using inside_out with
  | array items ih =>
    rw [tidy_array, tidy_array, List.map_map]
    congr 1
    exact List.map_congr_left ih
  | object members ih =>
    have each : ∀ m ∈ (Dictionary.ofList (members.map fun m => (m.1, m.2.tidy))).entries, (m.1, m.2.tidy) = m := by
      intro m member
      obtain ⟨i, inside, rfl⟩ := List.mem_map.1 (Dictionary.mem_of_mem_ofList member)
      rw [ih i inside]
    rw [tidy_object, tidy_object, List.map_congr_left each, List.map_id', Dictionary.ofList_entries]
  | null | bool | integer | decimal | string | broken => rfl

theorem tidy_eq_null_iff {j : Json} : j.tidy = .null ↔ j = .null := by
  cases j with
  | array items => simp [tidy_array]
  | object members => simp [tidy_object]
  | null | bool | integer | decimal | string | broken => rfl

/-- A value that was read is read again as it is. -/
theorem value_of_value {room : Nat} {j v : Json} (read : Decoder.value room j = some v) :
    Decoder.value room v = some v ∧ (j.isExact → v.isPlain) ∧ (v = .null ↔ j = .null) := by
  rw [Decoder.value, Option.ite_none_right_eq_some, Bool.and_eq_true, decide_eq_true_eq] at read
  obtain ⟨⟨shallow, readable⟩, same⟩ := read
  cases same
  have again : j.tidy.isReadable :=
    tidy_keeps (P := fun j => j.isReadable) (fun _ => isReadable_array_iff) (fun _ => isReadable_object_iff) readable
  refine ⟨?_, fun exact => ?_, tidy_eq_null_iff⟩
  · simp only [Decoder.value, depth_tidy_le shallow, again, tidy_tidy, decide_true, Bool.and_self, if_true]
  · exact tidy_keeps (P := fun j => j.isPlain) (fun _ => isPlain_array_iff) (fun _ => isPlain_object_iff)
      (isPlain_of_isExact exact readable)

end Json

end ClusterWatch
