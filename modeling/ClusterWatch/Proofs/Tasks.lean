import Mathlib.Algebra.Ring.Nat
import Mathlib.Data.List.Forall2
import Mathlib.Logic.Relation

namespace ClusterWatch

/-- As long as the goal is not reached there is a way on, and all ways lead to it. -/
inductive Inevitably {α : Type} (next : α → α → Prop) (goal : α → Prop) : α → Prop where
  | reached {a : α} : goal a → Inevitably next goal a
  | onward {a : α} : (∃ b, next a b) → (∀ b, next a b → Inevitably next goal b) → Inevitably next goal a

theorem inevitably_of_rank {α : Type} {next : α → α → Prop} {goal : α → Prop} (holds : α → Prop) (rank : α → Nat)
    (kept : ∀ {a b}, next a b → holds a → holds b ∧ rank b < rank a)
    (able : ∀ a, holds a → goal a ∨ ∃ b, next a b) {a : α} (first : holds a) : Inevitably next goal a := by
  induction distance : rank a using Nat.strongRecOn generalizing a with
  | ind n ih =>
    rcases able a first with there | further
    · exact .reached there
    · refine .onward further fun b step => ?_
      obtain ⟨still, lower⟩ := kept step first
      exact ih _ (distance ▸ lower) still rfl

structure Tasks (σ ι τ : Type) where
  shared : σ
  slots : List (ι × τ)

namespace Tasks

abbrev Work (σ ι τ : Type) := ι → σ × τ → σ × τ → Prop

variable {σ ι τ ε : Type}

def begin (start : τ) (items : List ι) (s : σ) : Tasks σ ι τ :=
  ⟨s, items.map fun i => (i, start)⟩

inductive Step (work : Work σ ι τ) : Tasks σ ι τ → Tasks σ ι τ → Prop where
  | move {i : ι} {s s' : σ} {a b : τ} (before after : List (ι × τ)) (moved : work i (s, a) (s', b)) :
      Step work ⟨s, before ++ (i, a) :: after⟩ ⟨s', before ++ (i, b) :: after⟩

def Run (work : Work σ ι τ) : Tasks σ ι τ → Tasks σ ι τ → Prop :=
  Relation.ReflTransGen (Step work)

variable {work : Work σ ι τ} {t u : Tasks σ ι τ}

section Invariants

theorem Step.items (step : Step work t u) : u.slots.map Prod.fst = t.slots.map Prod.fst := by
  obtain ⟨before, after, -⟩ := step
  simp only [List.map_append, List.map_cons]

theorem Run.items {start : τ} {items : List ι} {s : σ} (run : Run work (begin start items s) u) :
    u.slots.map Prod.fst = items := by
  induction run with
  | refl =>
    rw [begin, List.map_map]
    exact List.map_id items
  | tail _ step ih => rw [step.items, ih]

section Stable

variable (shares : σ → Prop) (holds : σ → ι → τ → Prop)

theorem Step.keeps_stable
    (kept : ∀ {i s a s' b}, work i (s, a) (s', b) → shares s → holds s i a → shares s' ∧ holds s' i b)
    (stable : ∀ {i s a s' b}, work i (s, a) (s', b) → shares s → holds s i a → ∀ j c, holds s j c → holds s' j c)
    (step : Step work t u) (old : shares t.shared ∧ ∀ slot ∈ t.slots, holds t.shared slot.1 slot.2) :
    shares u.shared ∧ ∀ slot ∈ u.slots, holds u.shared slot.1 slot.2 := by
  obtain ⟨before, after, moved⟩ := step
  obtain ⟨shared, slots⟩ := old
  simp only [List.forall_mem_append, List.forall_mem_cons] at slots ⊢
  obtain ⟨earlier, mover, later⟩ := slots
  obtain ⟨sharedAfter, here⟩ := kept moved shared mover
  have others := stable moved shared mover
  exact ⟨sharedAfter, fun slot member => others _ _ (earlier slot member), here,
    fun slot member => others _ _ (later slot member)⟩

theorem Run.keeps_stable
    (kept : ∀ {i s a s' b}, work i (s, a) (s', b) → shares s → holds s i a → shares s' ∧ holds s' i b)
    (stable : ∀ {i s a s' b}, work i (s, a) (s', b) → shares s → holds s i a → ∀ j c, holds s j c → holds s' j c)
    {start : τ} {items : List ι} {s : σ} (run : Run work (begin start items s) u) (shared : shares s)
    (fresh : ∀ i ∈ items, holds s i start) : shares u.shared ∧ ∀ slot ∈ u.slots, holds u.shared slot.1 slot.2 := by
  induction run with
  | refl =>
    refine ⟨shared, fun slot member => ?_⟩
    obtain ⟨i, inside, rfl⟩ := List.mem_map.1 member
    exact fresh i inside
  | tail _ step ih => exact step.keeps_stable shares holds kept stable ih

end Stable

variable (shares : σ → Prop) (holds : ι → τ → Prop)

theorem Run.keeps
    (kept : ∀ {i s a s' b}, work i (s, a) (s', b) → shares s → holds i a → shares s' ∧ holds i b)
    {start : τ} {items : List ι} {s : σ} (run : Run work (begin start items s) u) (shared : shares s)
    (fresh : ∀ i, holds i start) : shares u.shared ∧ ∀ slot ∈ u.slots, holds slot.1 slot.2 :=
  run.keeps_stable shares (fun _ => holds) kept (fun _ _ _ _ _ still => still) shared fun i _ => fresh i

variable (trace : σ → List ε) (entries : ι → τ → List ε)

theorem Step.traced
    (writes : ∀ {i s a s' b}, work i (s, a) (s', b) →
      ∃ new, trace s' = trace s ++ new ∧ entries i b = entries i a ++ new)
    (step : Step work t u) (old : (trace t.shared).Perm (t.slots.flatMap fun slot => entries slot.1 slot.2)) :
    (trace u.shared).Perm (u.slots.flatMap fun slot => entries slot.1 slot.2) := by
  obtain ⟨before, after, moved⟩ := step
  obtain ⟨new, shared, here⟩ := writes moved
  simp only [List.flatMap_append, List.flatMap_cons, shared, here, List.append_assoc] at old ⊢
  -- What is new stands last in the trace, but in the middle of the slots.
  refine (old.append_right new).trans ?_
  simp only [List.append_assoc]
  exact ((List.perm_append_comm).append_left _).append_left _

theorem Run.traced
    (writes : ∀ {i s a s' b}, work i (s, a) (s', b) →
      ∃ new, trace s' = trace s ++ new ∧ entries i b = entries i a ++ new)
    {start : τ} {items : List ι} {s : σ} (run : Run work (begin start items s) u) (blank : trace s = [])
    (fresh : ∀ i, entries i start = []) :
    (trace u.shared).Perm (u.slots.flatMap fun slot => entries slot.1 slot.2) := by
  induction run with
  | refl => simp [begin, blank, fresh, List.flatMap_map]
  | tail _ step ih => exact step.traced trace entries writes ih

end Invariants

section Ends

variable {rank : τ → Nat}

def remaining (rank : τ → Nat) (t : Tasks σ ι τ) : Nat :=
  (t.slots.map fun slot => rank slot.2).sum

theorem Step.remaining_lt (lowers : ∀ {i s a s' b}, work i (s, a) (s', b) → rank b < rank a) (step : Step work t u) :
    u.remaining rank < t.remaining rank := by
  obtain ⟨before, after, moved⟩ := step
  have lower := lowers moved
  simp only [remaining, List.map_append, List.map_cons, List.sum_append, List.sum_cons]
  omega

theorem exists_step (able : ∀ i s a, rank a ≠ 0 → ∃ next, work i (s, a) next) {slot : ι × τ} (here : slot ∈ t.slots)
    (unfinished : rank slot.2 ≠ 0) : ∃ u, Step work t u := by
  obtain ⟨s, slots⟩ := t
  obtain ⟨before, after, rfl⟩ := List.append_of_mem here
  obtain ⟨⟨s', b⟩, moved⟩ := able slot.1 s slot.2 unfinished
  exact ⟨_, .move before after moved⟩

theorem inevitably_of_runs (lowers : ∀ {i s a s' b}, work i (s, a) (s', b) → rank b < rank a)
    (able : ∀ i s a, rank a ≠ 0 → ∃ next, work i (s, a) next) {goal : Tasks σ ι τ → Prop} (t : Tasks σ ι τ)
    (atEnd : ∀ u, Run work t u → (∀ slot ∈ u.slots, rank slot.2 = 0) → goal u) :
    Inevitably (Step work) goal t := by
  refine inevitably_of_rank (Run work t) (remaining rank) (fun step run => ?_) (fun u run => ?_) .refl
  · exact ⟨.tail run step, step.remaining_lt lowers⟩
  · by_cases finished : ∀ slot ∈ u.slots, rank slot.2 = 0
    · exact Or.inl (atEnd u run finished)
    · simp only [Classical.not_forall] at finished
      obtain ⟨slot, here, unfinished⟩ := finished
      exact Or.inr (exists_step able here unfinished)

theorem exists_forall₂ {α β : Type} {R : α → β → Prop} {items : List α} (each : ∀ a ∈ items, ∃ b, R a b) :
    ∃ results, List.Forall₂ R items results := by
  induction items with
  | nil => exact ⟨[], .nil⟩
  | cons a items ih =>
    obtain ⟨b, here⟩ := each a List.mem_cons_self
    obtain ⟨results, there⟩ := ih fun a member => each a (List.mem_cons_of_mem _ member)
    exact ⟨b :: results, .cons here there⟩

theorem Run.results {ρ : Type} (ended : ρ → τ) (fits : ι → ρ → Prop) {start : τ} {items : List ι} {s : σ}
    (run : Run work (begin start items s) u) (each : ∀ slot ∈ u.slots, ∃ r, slot.2 = ended r ∧ fits slot.1 r) :
    ∃ results, u.slots.map Prod.snd = results.map ended ∧ List.Forall₂ fits items results := by
  obtain ⟨results, all⟩ := exists_forall₂ each
  refine ⟨results, ?_, ?_⟩
  · rw [← List.forall₂_eq_eq_eq, List.forall₂_map_left_iff, List.forall₂_map_right_iff]
    exact all.imp fun _ _ both => both.1
  · rw [← run.items, List.forall₂_map_left_iff]
    exact all.imp fun _ _ both => both.2

end Ends

section Turns

theorem Step.perm (step : Step work t u) {slots : List (ι × τ)} (same : t.slots.Perm slots) :
    ∃ slots', Step work ⟨t.shared, slots⟩ ⟨u.shared, slots'⟩ ∧ u.slots.Perm slots' := by
  obtain @⟨i, s, s', a, b, before, after, moved⟩ := step
  have here : (i, a) ∈ slots := same.subset List.mem_append_cons_self
  obtain ⟨before', after', rfl⟩ := List.append_of_mem here
  have others : (before ++ after).Perm (before' ++ after') :=
    (List.perm_middle.symm.trans (same.trans List.perm_middle)).cons_inv
  exact ⟨_, .move before' after' moved, List.perm_middle.trans ((others.cons _).trans List.perm_middle.symm)⟩

theorem Run.perm (run : Run work t u) {slots : List (ι × τ)} (same : t.slots.Perm slots) :
    ∃ slots', Run work ⟨t.shared, slots⟩ ⟨u.shared, slots'⟩ ∧ u.slots.Perm slots' := by
  induction run with
  | refl => exact ⟨slots, .refl, same⟩
  | tail _ step ih =>
    obtain ⟨slots', run, same⟩ := ih
    obtain ⟨slots'', next, same⟩ := step.perm same
    exact ⟨slots'', run.tail next, same⟩

theorem Run.cons (slot : ι × τ) (run : Run work t u) :
    Run work ⟨t.shared, slot :: t.slots⟩ ⟨u.shared, slot :: u.slots⟩ := by
  refine Relation.ReflTransGen.lift (fun v : Tasks σ ι τ => (⟨v.shared, slot :: v.slots⟩ : Tasks σ ι τ))
    (fun v w step => ?_) _ _ run
  obtain ⟨before, after, moved⟩ := step
  exact .move (slot :: before) after moved

def inTurn (whole : ι → σ → σ × τ) : List ι → σ → Tasks σ ι τ
  | [], s => ⟨s, []⟩
  | i :: items, s =>
    let later := inTurn whole items (whole i s).1
    ⟨later.shared, (i, (whole i s).2) :: later.slots⟩

theorem run_inTurn {start : τ} {whole : ι → σ → σ × τ}
    (does : ∀ i s, Relation.ReflTransGen (work i) (s, start) (whole i s)) (items : List ι) (s : σ) :
    Run work (begin start items s) (inTurn whole items s) := by
  induction items generalizing s with
  | nil => exact .refl
  | cons i items ih =>
    -- The first task runs alone, and the others after it, with its slot in front of theirs.
    have alone : Run work (begin start (i :: items) s)
        ⟨(whole i s).1, (i, (whole i s).2) :: items.map fun i => (i, start)⟩ := by
      refine Relation.ReflTransGen.lift
        (fun w : σ × τ => (⟨w.1, (i, w.2) :: items.map fun i => (i, start)⟩ : Tasks σ ι τ)) (fun v w moved => ?_)
        _ _ (does i s)
      exact .move [] _ moved
    exact alone.trans ((ih (whole i s).1).cons _)

/-- Whatever order the items are taken in, there is a run that takes them so. -/
theorem exists_run_inTurn {start : τ} {whole : ι → σ → σ × τ}
    (does : ∀ i s, Relation.ReflTransGen (work i) (s, start) (whole i s)) {items order : List ι}
    (same : order.Perm items) (s : σ) :
    ∃ u, Run work (begin start items s) u ∧ u.shared = (inTurn whole order s).shared ∧
      (inTurn whole order s).slots.Perm u.slots := by
  obtain ⟨slots, run, standing⟩ := (run_inTurn does order s).perm (same.map fun i => (i, start))
  exact ⟨_, run, rfl, standing⟩

end Turns

end Tasks

end ClusterWatch
