import ClusterWatch.Instant
import Mathlib.Data.List.Nodup

namespace ClusterWatch.Sorting

variable {α : Type} {le : α → α → Bool}

theorem mergeSort_cons_eq (trans : ∀ a b c, le a b → le b c → le a c)
    (total : ∀ a b, le a b || le b a) (a : α) (l : List α) :
    (a :: l).mergeSort le =
      ((l.mergeSort le).filter fun b => !le a b) ++ a :: (l.mergeSort le).filter fun b => le a b := by
  obtain ⟨front, back, whole, rest, below⟩ := List.mergeSort_cons trans total a l
  have sorted := List.pairwise_mergeSort trans total (a :: l)
  rw [whole] at sorted
  have above : ∀ b ∈ back, le a b := by
    have tail := (List.pairwise_append.1 sorted).2.1
    exact (List.pairwise_cons.1 tail).1
  have keepFront : (front.filter fun b => !le a b) = front := List.filter_eq_self.2 below
  have dropFront : (front.filter fun b => le a b) = [] := by
    apply List.filter_eq_nil_iff.2
    intro b member
    simpa using below b member
  have keepBack : (back.filter fun b => le a b) = back := List.filter_eq_self.2 above
  have dropBack : (back.filter fun b => !le a b) = [] := by
    apply List.filter_eq_nil_iff.2
    intro b member
    simpa using above b member
  rw [whole, rest, List.filter_append, List.filter_append, keepFront, keepBack, dropFront, dropBack,
    List.append_nil, List.nil_append]

theorem filter_mergeSort (trans : ∀ a b c, le a b → le b c → le a c)
    (total : ∀ a b, le a b || le b a) (keep : α → Bool) (l : List α) :
    (l.mergeSort le).filter keep = (l.filter keep).mergeSort le := by
  induction l with
  | nil => simp
  | cons a l ih =>
    by_cases kept : keep a
    · have swap : ∀ p : α → Bool,
          ((l.mergeSort le).filter p).filter keep = ((l.filter keep).mergeSort le).filter p := by
        intro p
        rw [← ih, List.filter_filter, List.filter_filter]
        simp only [Bool.and_comm]
      rw [List.filter_cons_of_pos kept, mergeSort_cons_eq trans total, mergeSort_cons_eq trans total,
        List.filter_append, List.filter_cons_of_pos kept, swap, swap]
    · obtain ⟨front, back, whole, rest, -⟩ := List.mergeSort_cons trans total a l
      rw [List.filter_cons_of_neg kept, ← ih, whole, rest, List.filter_append, List.filter_append,
        List.filter_cons_of_neg kept]

theorem filter_mergeSort_of_rank (trans : ∀ a b c, le a b → le b c → le a c)
    (total : ∀ a b, le a b || le b a) (rank : α → Bool) (l : List α)
    (same : ∀ a b, rank a → rank b → le a b) :
    (l.mergeSort le).filter rank = l.filter rank := by
  rw [filter_mergeSort trans total]
  apply List.mergeSort_of_pairwise
  apply List.Pairwise.imp_of_mem (R := fun _ _ => True)
  · intro a b ha hb _
    exact same a b (List.mem_filter.1 ha).2 (List.mem_filter.1 hb).2
  · exact List.pairwise_of_forall fun _ _ => trivial

section Key

variable {κ : Type} [LE κ] [DecidableLE κ] {key : α → κ}

theorem trans_by_key (trans : ∀ {a b c : κ}, a ≤ b → b ≤ c → a ≤ c) (a b c : α)
    (ab : decide (key a ≤ key b)) (bc : decide (key b ≤ key c)) : decide (key a ≤ key c) := by
  rw [decide_eq_true_iff] at ab bc ⊢
  exact trans ab bc

theorem total_by_key (total : ∀ a b : κ, a ≤ b ∨ b ≤ a) (a b : α) :
    decide (key a ≤ key b) || decide (key b ≤ key a) := by
  rw [Bool.or_eq_true, decide_eq_true_iff, decide_eq_true_iff]
  exact total (key a) (key b)

theorem pairwise_mergeSort_by_key (trans : ∀ {a b c : κ}, a ≤ b → b ≤ c → a ≤ c)
    (total : ∀ a b : κ, a ≤ b ∨ b ≤ a) (l : List α) :
    (l.mergeSort fun a b => key a ≤ key b).Pairwise fun a b => key a ≤ key b := by
  have sorted := List.pairwise_mergeSort (trans_by_key trans) (@total_by_key _ _ _ _ key total) l
  simpa only [decide_eq_true_eq] using sorted

theorem filter_mergeSort_by_key (trans : ∀ {a b c : κ}, a ≤ b → b ≤ c → a ≤ c)
    (total : ∀ a b : κ, a ≤ b ∨ b ≤ a) (keep : α → Bool) (l : List α) :
    (l.mergeSort fun a b => key a ≤ key b).filter keep = (l.filter keep).mergeSort fun a b => key a ≤ key b :=
  filter_mergeSort (trans_by_key trans) (total_by_key total) keep l

/-- Where all keys are different, the order before sorting leaves no trace. -/
theorem mergeSort_eq_of_perm_by_key (trans : ∀ {a b c : κ}, a ≤ b → b ≤ c → a ≤ c)
    (total : ∀ a b : κ, a ≤ b ∨ b ≤ a) (antisymm : ∀ {a b : κ}, a ≤ b → b ≤ a → a = b) {l l' : List α}
    (distinct : (l.map key).Nodup) (perm : l.Perm l') :
    (l.mergeSort fun a b => key a ≤ key b) = l'.mergeSort fun a b => key a ≤ key b := by
  refine List.Perm.eq_of_pairwise ?_ (pairwise_mergeSort_by_key trans total l)
    (pairwise_mergeSort_by_key trans total l') ?_
  case refine_2 => exact (List.mergeSort_perm l _).trans (perm.trans (List.mergeSort_perm l' _).symm)
  intro a b left right below above
  have inside := perm.mem_iff.2 ((List.mergeSort_perm l' _).mem_iff.1 right)
  exact List.inj_on_of_nodup_map distinct ((List.mergeSort_perm l _).mem_iff.1 left) inside (antisymm below above)

end Key

end ClusterWatch.Sorting
