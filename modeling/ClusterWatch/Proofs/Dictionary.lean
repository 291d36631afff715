import ClusterWatch.Dictionary
import ClusterWatch.Proofs.Keyed
import Mathlib.Data.List.Basic
import Mathlib.Data.List.Nodup
import Mathlib.Data.List.Perm.Basic

namespace ClusterWatch

namespace Dictionary

variable {α β : Type}

theorem ext_entries {d e : Dictionary α} (same : d.entries = e.entries) : d = e := by
  cases d
  cases e
  cases same
  rfl

theorem place_above {key : String} {value : α} {es : List (String × α)} (above : ∀ e ∈ es, e.1 < key) :
    place key value es = es ++ [(key, value)] := by
  induction es with
  | nil => rfl
  | cons e es ih =>
    have first := above e List.mem_cons_self
    have rest := ih fun e member => above e (List.mem_cons_of_mem _ member)
    rw [place, if_neg (String.lt_asymm first), if_pos first, rest, List.cons_append]

theorem entries_foldl_insert (es : List (String × α)) (d : Dictionary α)
    (ordered : (d.entries ++ es).Pairwise fun a b => a.1 < b.1) :
    (es.foldl (fun d e => d.insert e.1 e.2) d).entries = d.entries ++ es := by
  induction es generalizing d with
  | nil => simp
  | cons e es ih =>
    have above : ∀ x ∈ d.entries, x.1 < e.1 := by
      intro x member
      exact (List.pairwise_append.1 ordered).2.2 x member e List.mem_cons_self
    have placed : (d.insert e.1 e.2).entries = d.entries ++ [e] := place_above above
    rw [List.foldl_cons, ih]
    · rw [placed, List.append_assoc, List.singleton_append]
    · rw [placed, List.append_assoc, List.singleton_append]
      exact ordered

theorem ofList_entries (d : Dictionary α) : ofList d.entries = d := by
  apply ext_entries
  rw [ofList, entries_foldl_insert]
  · rfl
  · exact d.ordered

theorem lookup_cons (k : String) (e : String × α) (es : List (String × α)) :
    (e :: es).lookup k = if k = e.1 then some e.2 else es.lookup k := by
  rw [List.lookup_cons]
  by_cases same : k = e.1
  · rw [same, beq_self_eq_true, if_pos rfl]
  · rw [beq_false_of_ne same, if_neg same]

theorem lookup_above {key : String} {es : List (String × α)} (above : ∀ e ∈ es, key < e.1) :
    es.lookup key = none := by
  apply List.lookup_eq_none_iff.2
  intro e member
  simpa using String.ne_of_lt (above e member)

theorem lookup_place (key k : String) (value : α) (es : List (String × α)) :
    (place key value es).lookup k = if k = key then some value else es.lookup k := by
  induction es with
  | nil => rw [place, lookup_cons]
  | cons e es ih =>
    rw [place]
    split
    · rw [lookup_cons]
    · split
      · rename_i after
        rw [lookup_cons, lookup_cons, ih]
        by_cases first : k = e.1
        · rw [if_pos first, if_pos first, if_neg]
          rintro rfl
          exact String.ne_of_lt after first.symm
        · rw [if_neg first, if_neg first]
      · rename_i notBelow notAbove
        have same : key = e.1 := String.le_antisymm (String.not_lt.1 notAbove) (String.not_lt.1 notBelow)
        rw [lookup_cons, lookup_cons, same]
        by_cases first : k = e.1
        · rw [if_pos first, if_pos first]
        · rw [if_neg first, if_neg first, if_neg first]

theorem get?_insert (d : Dictionary α) (key k : String) (value : α) :
    (d.insert key value).get? k = if k = key then some value else d.get? k :=
  lookup_place key k value d.entries

theorem get?_update (d : Dictionary α) (key k : String) (f : Option α → α) :
    (d.update key f).get? k = if k = key then some (f (d.get? k)) else d.get? k := by
  rw [update, get?_insert]
  by_cases same : k = key
  · rw [if_pos same, if_pos same, same]
  · rw [if_neg same, if_neg same]

theorem lookup_map (f : α → β) (k : String) (es : List (String × α)) :
    (es.map fun e => (e.1, f e.2)).lookup k = (es.lookup k).map f := by
  induction es with
  | nil => rfl
  | cons e es ih =>
    rw [List.map_cons, lookup_cons, lookup_cons, ih]
    by_cases first : k = e.1
    · rw [if_pos first, if_pos first, Option.map_some]
    · rw [if_neg first, if_neg first]

theorem get?_map (f : α → β) (d : Dictionary α) (k : String) : (d.map f).get? k = (d.get? k).map f :=
  lookup_map f k d.entries

theorem mem_entries_iff {d : Dictionary α} {k : String} {a : α} : (k, a) ∈ d.entries ↔ d.get? k = some a := by
  constructor
  · intro member
    obtain ⟨front, back, whole⟩ := List.append_of_mem member
    apply List.lookup_eq_some_iff.2
    refine ⟨front, back, whole, fun e before => ?_⟩
    have ordered := d.ordered
    rw [whole] at ordered
    have below := (List.pairwise_append.1 ordered).2.2 e before (k, a) List.mem_cons_self
    simpa using (String.ne_of_lt below).symm
  · exact Keyed.mem_of_lookup

theorem ext_get? {d e : Dictionary α} (same : ∀ k, d.get? k = e.get? k) : d = e := by
  have distinct : ∀ d : Dictionary α, d.entries.Nodup := by
    intro d
    refine d.ordered.imp fun {a b} below equal => ?_
    rw [equal] at below
    exact String.lt_irrefl _ below
  have perm : d.entries.Perm e.entries := by
    rw [List.perm_ext_iff_of_nodup (distinct d) (distinct e)]
    rintro ⟨k, a⟩
    rw [mem_entries_iff, mem_entries_iff, same]
  apply ext_entries
  refine List.Perm.eq_of_pairwise ?_ d.ordered e.ordered perm
  intro a b _ _ below above
  exact absurd above (String.lt_asymm below)

theorem insert_comm (d : Dictionary α) {a b : String × α} (apart : a.1 = b.1 → a = b) :
    (d.insert a.1 a.2).insert b.1 b.2 = (d.insert b.1 b.2).insert a.1 a.2 := by
  by_cases same : a.1 = b.1
  · rw [apart same]
  · apply ext_get?
    intro k
    simp only [get?_insert]
    by_cases first : k = a.1
    · rw [if_pos first, if_neg fun second => same (first.symm.trans second), if_pos first]
    · rw [if_neg first]
      split <;> rfl

theorem ofList_of_perm {es fs : List (String × α)} (distinct : (es.map Prod.fst).Nodup) (same : es.Perm fs) :
    ofList es = ofList fs :=
  same.foldl_eq' (fun _ first _ second d => d.insert_comm fun key =>
    List.inj_on_of_nodup_map distinct first second key) ∅

def file (key : α → String) (d : Dictionary (List α)) (items : List α) : Dictionary (List α) :=
  items.foldl (fun d a => d.update (key a) fun others => others.getD [] ++ [a]) d

theorem file_cons (key : α → String) (d : Dictionary (List α)) (a : α) (items : List α) :
    d.file key (a :: items) = (d.update (key a) fun others => others.getD [] ++ [a]).file key items :=
  rfl

theorem file_append (key : α → String) (d : Dictionary (List α)) (items more : List α) :
    d.file key (items ++ more) = (d.file key items).file key more :=
  List.foldl_append

theorem filed_under (key : α → String) (d : Dictionary (List α)) (items : List α) (k : String) :
    ((d.file key items).get? k).getD [] = (d.get? k).getD [] ++ items.filter fun a => key a = k := by
  induction items generalizing d with
  | nil => simp [file]
  | cons a items ih =>
    rw [file_cons, ih, get?_update]
    by_cases same : k = key a
    · simp [same]
    · have skip : ¬ key a = k := fun h => same h.symm
      simp [same, skip]

def IsFiled (key : α → String) (d : Dictionary (List α)) : Prop :=
  ∀ e ∈ d.entries, e.2 ≠ [] ∧ ∀ a ∈ e.2, key a = e.1

theorem isFiled_file {key : α → String} {d : Dictionary (List α)} (filed : d.IsFiled key) (items : List α) :
    (d.file key items).IsFiled key := by
  induction items generalizing d with
  | nil => exact filed
  | cons a items ih =>
    rw [file_cons]
    apply ih
    intro e member
    rcases mem_of_mem_place member with rfl | member
    · refine ⟨by simp, ?_⟩
      intro b inside
      rcases List.mem_append.1 inside with before | last
      · cases search : d.get? (key a) with
        | none => simp [search] at before
        | some others =>
          rw [search, Option.getD_some] at before
          exact (filed (key a, others) (Keyed.mem_of_lookup search)).2 b before
      · rw [List.mem_singleton.1 last]
    · exact filed e member

def values (d : Dictionary (List α)) : List α :=
  d.entries.flatMap Prod.snd

theorem values_place {es : List (String × List α)} (ordered : es.Pairwise fun a b => a.1 < b.1) (key : String)
    (a : α) :
    ((place key ((es.lookup key).getD [] ++ [a]) es).flatMap Prod.snd).Perm (es.flatMap Prod.snd ++ [a]) := by
  induction es with
  | nil => simp [place]
  | cons e es ih =>
    obtain ⟨head, tail⟩ := List.pairwise_cons.1 ordered
    rw [place]
    split
    · rename_i below
      have absent : (e :: es).lookup key = none := by
        apply lookup_above
        intro x member
        rcases List.mem_cons.1 member with rfl | member
        · exact below
        · exact String.lt_trans below (head x member)
      rw [absent, List.flatMap_cons]
      exact List.perm_append_comm
    · split
      · rename_i above
        rw [lookup_cons, if_neg (String.ne_of_lt above).symm, List.flatMap_cons, List.flatMap_cons,
          List.append_assoc]
        exact (ih tail).append_left e.2
      · rename_i notBelow notAbove
        have same : key = e.1 := String.le_antisymm (String.not_lt.1 notAbove) (String.not_lt.1 notBelow)
        rw [lookup_cons, if_pos same, Option.getD_some, List.flatMap_cons, List.flatMap_cons, List.append_assoc,
          List.append_assoc]
        exact List.perm_append_comm.append_left e.2

theorem values_file (key : α → String) (d : Dictionary (List α)) (items : List α) :
    (d.file key items).values.Perm (d.values ++ items) := by
  induction items generalizing d with
  | nil => simp [file]
  | cons a items ih =>
    rw [file_cons]
    apply (ih _).trans
    have one : (d.update (key a) fun others => others.getD [] ++ [a]).values.Perm (d.values ++ [a]) :=
      values_place d.ordered (key a) a
    apply (one.append_right items).trans
    rw [List.append_assoc, List.singleton_append]

theorem values_map {f : List α → List α} (shuffle : ∀ items, (f items).Perm items) (d : Dictionary (List α)) :
    (d.map f).values.Perm d.values := by
  obtain ⟨es, ordered⟩ := d
  simp only [values, map, List.flatMap_map]
  clear ordered
  induction es with
  | nil => exact List.Perm.refl _
  | cons e es ih =>
    rw [List.flatMap_cons, List.flatMap_cons]
    exact (shuffle e.2).append ih

theorem isFiled_map {key : α → String} {f : List α → List α} (shuffle : ∀ items, (f items).Perm items)
    {d : Dictionary (List α)} (filed : d.IsFiled key) : (d.map f).IsFiled key := by
  intro e member
  obtain ⟨old, there, rfl⟩ := List.mem_map.1 member
  obtain ⟨some, own⟩ := filed old there
  refine ⟨fun none => some ((shuffle old.2).symm.trans (none ▸ List.Perm.refl _)).eq_nil, ?_⟩
  intro a inside
  exact own a ((shuffle old.2).mem_iff.1 inside)

theorem ext_of_isFiled {key : α → String} {d e : Dictionary (List α)} (filed : d.IsFiled key)
    (filed' : e.IsFiled key) (same : ∀ k, (d.get? k).getD [] = (e.get? k).getD []) : d = e := by
  have filled : ∀ {d : Dictionary (List α)} {k : String}, d.IsFiled key → d.get? k ≠ some [] := by
    intro d k filed found
    exact (filed (k, []) (mem_entries_iff.2 found)).1 rfl
  apply ext_get?
  intro k
  have equal := same k
  cases here : d.get? k with
  | none =>
    cases there : e.get? k with
    | none => rfl
    | some others =>
      rw [here, there, Option.getD_none, Option.getD_some] at equal
      exact absurd (equal ▸ there) (filled filed')
  | some items =>
    cases there : e.get? k with
    | none =>
      rw [here, there, Option.getD_some, Option.getD_none] at equal
      exact absurd (equal ▸ here) (filled filed)
    | some others =>
      rw [here, there, Option.getD_some, Option.getD_some] at equal
      rw [equal]

end Dictionary

end ClusterWatch
