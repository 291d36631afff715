import Mathlib.Data.List.Forall2

namespace ClusterWatch

variable {ε ε' α β γ : Type}

theorem isOk_bind (good : Bool) {x : Except ε α} {f : α → Except ε β} (h : ∀ a, (f a).isOk = good) :
    (x >>= f).isOk = (x.isOk && good) := by
  cases x with
  | error => rfl
  | ok a => exact h a

theorem isOk_bind_pure (x : Except ε α) (f : α → β) : (x >>= fun a => pure (f a)).isOk = x.isOk := by
  cases x <;> rfl

theorem isOk_mapError (f : ε → ε') (x : Except ε α) : (x.mapError f).isOk = x.isOk := by
  cases x <;> rfl

theorem isOk_foldlM {f : β → α → Except ε β} {good : α → Bool} (h : ∀ b a, (f b a).isOk = good a)
    (items : List α) (b : β) : (items.foldlM f b).isOk = items.all good := by
  induction items generalizing b with
  | nil => rfl
  | cons a items ih =>
    rw [List.foldlM_cons, isOk_bind (items.all good) fun b => ih b, h, List.all_cons]

theorem exists_error_of_foldlM {f : β → α → Except ε β} {items : List α} {b : β} {e : ε}
    (failed : items.foldlM f b = .error e) :
    ∃ before a after sofar, items = before ++ a :: after ∧ before.foldlM f b = .ok sofar ∧
      f sofar a = .error e := by
  induction items generalizing b with
  | nil => cases failed
  | cons a items ih =>
    rw [List.foldlM_cons] at failed
    cases first : f b a with
    | error =>
      rw [first] at failed
      cases failed
      exact ⟨[], a, items, b, rfl, rfl, first⟩
    | ok next =>
      rw [first] at failed
      obtain ⟨before, culprit, after, sofar, rfl, folded, step⟩ := ih failed
      refine ⟨a :: before, culprit, after, sofar, rfl, ?_, step⟩
      rw [List.foldlM_cons, first]
      exact folded

theorem toOption_bind (x : Except ε α) (f : α → Except ε β) :
    (x >>= f).toOption = x.toOption.bind fun a => (f a).toOption := by
  cases x <;> rfl

theorem exists_of_bind_ok {x : Except ε α} {f : α → Except ε β} {b : β} (done : x >>= f = .ok b) :
    ∃ a, x = .ok a ∧ f a = .ok b := by
  cases x with
  | error => cases done
  | ok a => exact ⟨a, rfl, done⟩

theorem ok_of_mapError {f : ε → ε'} {x : Except ε α} {a : α} (done : x.mapError f = .ok a) :
    x = .ok a := by
  cases x with
  | error => cases done
  | ok b =>
    cases done
    rfl

theorem exists_of_mem_forall₂ {R : α → β → Prop} {items : List α} {results : List β}
    (related : List.Forall₂ R items results) {b : β} (member : b ∈ results) : ∃ a ∈ items, R a b := by
  induction related with
  | nil => cases member
  | @cons a first _ _ here _ ih =>
    rcases List.mem_cons.1 member with rfl | member
    · exact ⟨a, List.mem_cons_self, here⟩
    · obtain ⟨a, inside, there⟩ := ih member
      exact ⟨a, List.mem_cons_of_mem _ inside, there⟩

theorem forall₂_of_foldlM {g : α → Except ε γ} {f : β → γ → β} {items : List α} {b r : β}
    (done : items.foldlM (fun t a => do return f t (← g a)) b = .ok r) :
    ∃ values, List.Forall₂ (fun a v => g a = .ok v) items values ∧ r = values.foldl f b := by
  induction items generalizing b with
  | nil =>
    cases done
    exact ⟨[], .nil, rfl⟩
  | cons a items ih =>
    rw [List.foldlM_cons] at done
    obtain ⟨next, first, rest⟩ := exists_of_bind_ok done
    obtain ⟨v, value, folded⟩ := exists_of_bind_ok first
    cases folded
    obtain ⟨values, each, same⟩ := ih rest
    exact ⟨v :: values, .cons value each, same⟩

end ClusterWatch
