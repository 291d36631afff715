import ClusterWatch.Text.Split
import Mathlib.Data.List.TakeWhile

namespace ClusterWatch.Text

variable {mark c : Char} {cs before after part rest : List Char}

theorem splitLast?_of_not_mem (none : c ∉ after) (before : List Char) :
    splitLast? c (before ++ c :: after) = some (before, after) := by
  have other : ∀ d ∈ after.reverse, decide (d ≠ c) = true := by
    intro d member
    apply decide_eq_true
    rintro rfl
    exact none (List.mem_reverse.1 member)
  have behind : (before ++ c :: after).reverse.takeWhile (· ≠ c) = after.reverse := by
    rw [List.reverse_append, List.reverse_cons, List.append_assoc, List.takeWhile_append_of_pos other,
      List.singleton_append, List.takeWhile_cons_of_neg (by simp), List.append_nil]
  have front : (before ++ c :: after).length - after.length - 1 = before.length := by
    rw [List.length_append, List.length_cons]
    omega
  rw [splitLast?, behind, List.reverse_reverse, if_neg, front, List.take_left]
  rw [List.length_append, List.length_cons]
  omega

theorem splitLast?_eq_none_of_not_mem (none : c ∉ cs) : splitLast? c cs = .none := by
  have whole : cs.reverse.takeWhile (· ≠ c) = cs.reverse := by
    apply List.takeWhile_eq_self_iff.2
    intro d member
    apply decide_eq_true
    rintro rfl
    exact none (List.mem_reverse.1 member)
  rw [splitLast?, whole, List.reverse_reverse, if_pos rfl]

theorem exists_last_of_mem (member : c ∈ cs) : ∃ before after, cs = before ++ c :: after ∧ c ∉ after := by
  obtain ⟨behind, front, same, first⟩ := List.eq_append_cons_of_mem (List.mem_reverse.2 member)
  refine ⟨front.reverse, behind.reverse, ?_, fun inside => first (List.mem_reverse.1 inside)⟩
  have backwards := congrArg List.reverse same
  simpa using backwards

theorem splitLast?_eq_some_iff :
    splitLast? c cs = some (before, after) ↔ cs = before ++ c :: after ∧ c ∉ after := by
  constructor
  · intro split
    by_cases member : c ∈ cs
    · obtain ⟨front, behind, rfl, last⟩ := exists_last_of_mem member
      rw [splitLast?_of_not_mem last front] at split
      cases split
      exact ⟨rfl, last⟩
    · rw [splitLast?_eq_none_of_not_mem member] at split
      cases split
  · rintro ⟨rfl, none⟩
    exact splitLast?_of_not_mem none before

theorem splitFirst?_eq_none_of_not_mem {marks : List Char} (inside : c ∈ marks) (none : c ∉ cs) :
    splitFirst? marks cs = .none := by
  have some : marks ≠ [] := List.ne_nil_of_mem inside
  induction cs with
  | nil => rw [splitFirst?, if_neg (by simpa using some)]
  | cons d rest ih =>
    have apart : ¬ marks.isPrefixOf (d :: rest) := by
      intro front
      exact none ((List.isPrefixOf_iff_prefix.1 front).subset inside)
    rw [splitFirst?, if_neg apart, ih fun later => none (List.mem_cons_of_mem d later), Option.map_none]

theorem splitFirst?_of_not_mem (none : c ∉ before) (after : List Char) :
    splitFirst? [c] (before ++ c :: after) = some (before, after) := by
  induction before with
  | nil => simp [splitFirst?, List.isPrefixOf]
  | cons d rest ih =>
    obtain ⟨other, later⟩ := not_or.1 fun member => none (List.mem_cons.2 member)
    have apart : ¬ [c].isPrefixOf (d :: (rest ++ c :: after)) := by simpa [List.isPrefixOf] using other
    rw [List.cons_append, splitFirst?, if_neg apart, ih later, Option.map_some]

theorem splitAll_of_not_mem (none : mark ∉ part) : splitAll mark part = [part] := by
  induction part with
  | nil => rfl
  | cons c rest ih =>
    obtain ⟨other, later⟩ := not_or.1 fun member => none (List.mem_cons.2 member)
    rw [splitAll, if_neg (Ne.symm other), ih later, consFirst]

theorem splitAll_append (none : mark ∉ part) (rest : List Char) :
    splitAll mark (part ++ mark :: rest) = part :: splitAll mark rest := by
  induction part with
  | nil => rw [List.nil_append, splitAll, if_pos rfl]
  | cons c others ih =>
    obtain ⟨other, later⟩ := not_or.1 fun member => none (List.mem_cons.2 member)
    rw [List.cons_append, splitAll, if_neg (Ne.symm other), ih later, consFirst]

end ClusterWatch.Text
