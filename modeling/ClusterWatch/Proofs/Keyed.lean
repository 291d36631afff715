import Mathlib.Data.List.Nodup

namespace ClusterWatch.Keyed

variable {α κ : Type} [DecidableEq κ] {key : α → κ} {items : List α}

theorem find?_eq_some_iff (distinct : (items.map key).Nodup) {k : κ} {a : α} :
    (items.find? fun x => key x = k) = some a ↔ a ∈ items ∧ key a = k := by
  constructor
  · intro found
    exact ⟨List.mem_of_find?_eq_some found, by simpa using List.find?_some found⟩
  · rintro ⟨member, rfl⟩
    cases search : items.find? fun x => key x = key a with
    | none =>
      have other := List.find?_eq_none.1 search a member
      simp at other
    | some b =>
      have same : key b = key a := by simpa using List.find?_some search
      rw [List.inj_on_of_nodup_map distinct (List.mem_of_find?_eq_some search) member same]

theorem find?_eq_none_iff {k : κ} : (items.find? fun x => key x = k) = none ↔ k ∉ items.map key := by
  simp [List.find?_eq_none, List.mem_map]

theorem filter_eq_singleton (distinct : (items.map key).Nodup) {a : α} (member : a ∈ items) :
    (items.filter fun x => key x = key a) = [a] := by
  induction items with
  | nil => exact absurd member List.not_mem_nil
  | cons first rest ih =>
    obtain ⟨fresh, others⟩ := List.nodup_cons.1 distinct
    rcases List.mem_cons.1 member with rfl | member
    · rw [List.filter_cons_of_pos (by simp)]
      congr 1
      apply List.filter_eq_nil_iff.2
      intro b inside same
      exact fresh (List.mem_map.2 ⟨b, inside, of_decide_eq_true same⟩)
    · rw [List.filter_cons_of_neg, ih others member]
      intro same
      exact fresh (List.mem_map.2 ⟨a, member, (of_decide_eq_true same).symm⟩)

theorem mem_of_lookup {pairs : List (κ × α)} {k : κ} {a : α} (found : pairs.lookup k = some a) :
    (k, a) ∈ pairs := by
  obtain ⟨front, back, rfl, -⟩ := List.lookup_eq_some_iff.1 found
  exact List.mem_append_right front List.mem_cons_self

omit [DecidableEq κ] in
theorem filter_flatMap {β : Type} {parts : α → List β} {own : β → κ} (uniform : ∀ a, ∀ b ∈ parts a, own b = key a)
    (keep : κ → Bool) (items : List α) :
    ((items.flatMap parts).filter fun b => keep (own b)) = (items.filter fun a => keep (key a)).flatMap parts := by
  induction items with
  | nil => rfl
  | cons a rest ih =>
    rw [List.flatMap_cons, List.filter_append, ih]
    by_cases kept : keep (key a)
    · have all : ((parts a).filter fun b => keep (own b)) = parts a := by
        apply List.filter_eq_self.2
        intro b member
        rw [uniform a b member, kept]
      rw [all, List.filter_cons_of_pos (p := fun a => keep (key a)) kept, List.flatMap_cons]
    · have gone : ((parts a).filter fun b => keep (own b)) = [] := by
        apply List.filter_eq_nil_iff.2
        intro b member
        rwa [uniform a b member]
      rw [gone, List.nil_append, List.filter_cons_of_neg (p := fun a => keep (key a)) kept]

omit [DecidableEq κ] in
theorem map_filterMap_sublist {β : Type} {f : α → Option β} {own : β → κ}
    (uniform : ∀ a b, f a = some b → own b = key a) (items : List α) :
    ((items.filterMap f).map own).Sublist (items.map key) := by
  induction items with
  | nil => exact .slnil
  | cons a rest ih =>
    cases image : f a with
    | none =>
      rw [List.filterMap_cons_none image, List.map_cons]
      exact ih.cons (key a)
    | some b =>
      rw [List.filterMap_cons_some image, List.map_cons, List.map_cons, uniform a b image]
      exact ih.cons_cons (key a)

theorem nodup_map_filter {μ : Type} {other : α → μ} (distinct : (items.map fun a => (key a, other a)).Nodup) (k : κ) :
    ((items.filter fun a => key a = k).map other).Nodup := by
  have pairs := distinct.sublist ((List.filter_sublist (p := fun a => decide (key a = k))).map _)
  have first : ((items.filter fun a => key a = k).map fun a => (key a, other a)) =
      ((items.filter fun a => key a = k).map other).map (Prod.mk k) := by
    rw [List.map_map]
    apply List.map_congr_left
    intro a member
    have same : key a = k := by simpa using (List.mem_filter.1 member).2
    rw [same, Function.comp_apply]
  rw [first] at pairs
  exact pairs.of_map _

end ClusterWatch.Keyed
