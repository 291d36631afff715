import ClusterWatch.Fetch
import ClusterWatch.Proofs.Durations
import ClusterWatch.Proofs.Tasks

namespace ClusterWatch

inductive Plan (ρ : Type) : Type 1 where
  | done (result : ρ)
  | round {α : Type} (calls : List (Call α)) (next : List (Ending α) → Plan ρ)

inductive Round (α : Type) where
  | underway (now : Duration) (slots : List (Call α × Option (Ending α)))
  | broken

/-- When a call that was made at some time ends, and how: by itself, or because it is given up. -/
inductive Due {α : Type} (start limit : Duration) (c : Call α) : Duration → Ending α → Prop where
  | itself : Due start limit c (start + c.delay) c.ending
  | limit : Due start limit c (start + limit) (.fault (.timeout limit))

inductive Tick {α : Type} (start : Duration) (limits : Limits) : Round α → Round α → Prop where
  | ends {now : Duration} {c : Call α} {e : Ending α} (before after : List (Call α × Option (Ending α)))
      (due : Due start limits.call c now e) :
      Tick start limits (.underway now (before ++ (c, none) :: after)) (.underway now (before ++ (c, some e) :: after))
  | breaksOff {slots : List (Call α × Option (Ending α))} {c : Call α} (waiting : (c, none) ∈ slots) :
      Tick start limits (.underway limits.fetch slots) .broken
  | passes {now later : Duration} {slots : List (Call α × Option (Ending α))} {c : Call α}
      (waiting : (c, none) ∈ slots) (onward : now < later) (whole : later ≤ limits.fetch)
      (each : ∀ c, (c, none) ∈ slots → ∀ t e, Due start limits.call c t e → later ≤ t) :
      Tick start limits (.underway now slots) (.underway later slots)

def Round.begin {α : Type} (start : Duration) (calls : List (Call α)) : Round α :=
  .underway start (calls.map fun c => (c, none))

def Plan.Comes {ρ : Type} (limits : Limits) (goal : Duration → Option ρ → Prop) : Duration → Plan ρ → Prop
  | now, .done r => goal now (some r)
  | now, .round calls next => Inevitably (Tick now limits)
      (fun
        | .broken => goal limits.fetch none
        | .underway later slots =>
          ∃ endings, slots.map Prod.snd = endings.map some ∧ (next endings).Comes limits goal later)
      (.begin now calls)

/-- No call ends by itself just when it is given up. -/
def Plan.Clear {ρ : Type} (limit : Duration) : Plan ρ → Prop
  | .done _ => True
  | .round calls next =>
    (∀ c ∈ calls, c.delay ≠ limit) ∧ (next (calls.map fun c => (c.bounded limit).ending)).Clear limit

def slowest {α : Type} (limit : Duration) (calls : List (Call α)) : Duration :=
  .longest (calls.map fun c => (c.bounded limit).delay)

def Plan.outcome {ρ : Type} (limit : Duration) : Duration → Plan ρ → Duration × ρ
  | now, .done r => (now, r)
  | now, .round calls next =>
    (next (calls.map fun c => (c.bounded limit).ending)).outcome limit (now + slowest limit calls)

section Slowest

variable {α : Type} {limit : Duration} {calls : List (Call α)} {c : Call α}

theorem delay_le_slowest (member : c ∈ calls) : (c.bounded limit).delay ≤ slowest limit calls :=
  Duration.longest_le_iff.1 (Nat.le_refl _) _ (List.mem_map_of_mem member)

theorem slowest_singleton (limit : Duration) (c : Call α) : slowest limit [c] = (c.bounded limit).delay :=
  Duration.max_eq_right (Nat.zero_le _)

end Slowest

section Calls

variable {α : Type} {start limit now : Duration} {c : Call α} {e : Ending α}

theorem due_bounded (start limit : Duration) (c : Call α) :
    Due start limit c (start + (c.bounded limit).delay) (c.bounded limit).ending := by
  by_cases inTime : c.delay ≤ limit
  · rw [Call.bounded_of_le inTime]
    exact .itself
  · rw [Call.bounded, if_neg inTime]
    exact .limit

theorem Due.bounded_le (due : Due start limit c now e) : start + (c.bounded limit).delay ≤ now := by
  cases due with
  | limit => exact Nat.add_le_add_left (Call.bounded_delay_le limit c) _
  | itself =>
    by_cases inTime : c.delay ≤ limit
    · rw [Call.bounded_of_le inTime]
      exact Nat.le_refl _
    · rw [Call.bounded, if_neg inTime]
      exact Nat.add_le_add_left (Nat.le_of_not_le inTime) _

theorem Due.ending_eq (due : Due start limit c now e) (clear : c.delay ≠ limit)
    (waits : now ≤ start + (c.bounded limit).delay) : e = (c.bounded limit).ending := by
  by_cases inTime : c.delay ≤ limit
  · rw [Call.bounded_of_le inTime] at waits ⊢
    cases due with
    | itself => rfl
    | limit =>
      have within : limit.nanos ≤ c.delay.nanos := Nat.le_of_add_le_add_left waits
      exact absurd (Duration.eq_iff_nanos.2 (Nat.le_antisymm inTime within)) clear
  · rw [Call.bounded, if_neg inTime] at waits ⊢
    cases due with
    | limit => rfl
    | itself =>
      have within : c.delay.nanos ≤ limit.nanos := Nat.le_of_add_le_add_left waits
      exact absurd within inTime

end Calls

namespace Round

variable {α : Type} {start now : Duration} {limits : Limits} {calls : List (Call α)}
  {slots : List (Call α × Option (Ending α))} {r r' : Round α}

def Fits (start limit now : Duration) (c : Call α) : Option (Ending α) → Prop
  | none => now ≤ start + (c.bounded limit).delay
  | some e => start + (c.bounded limit).delay ≤ now ∧ e = (c.bounded limit).ending

structure OnTime (start : Duration) (limits : Limits) (calls : List (Call α)) (now : Duration)
    (slots : List (Call α × Option (Ending α))) : Prop where
  made : slots.map Prod.fst = calls
  begun : start ≤ now
  whole : now ≤ limits.fetch
  latest : now ≤ start + slowest limits.call calls
  each : ∀ slot ∈ slots, Fits start limits.call now slot.1 slot.2

def Holds (start : Duration) (limits : Limits) (calls : List (Call α)) : Round α → Prop
  | .underway now slots => OnTime start limits calls now slots
  | .broken => limits.fetch ≤ start + slowest limits.call calls

def rank (start : Duration) (limits : Limits) (calls : List (Call α)) : Round α → Nat
  | .underway now slots =>
    (start + slowest limits.call calls).nanos - now.nanos + slots.countP fun slot => slot.2.isNone
  | .broken => 0

theorem OnTime.le_of_waiting (onTime : OnTime start limits calls now slots) {c : Call α}
    (waiting : (c, none) ∈ slots) : start + (c.bounded limits.call).delay ≤ start + slowest limits.call calls := by
  have member : c ∈ calls := onTime.made ▸ List.mem_map_of_mem (f := Prod.fst) waiting
  exact Nat.add_le_add_left (delay_le_slowest member) _

theorem holds_of_tick (clear : ∀ c ∈ calls, c.delay ≠ limits.call) (tick : Tick start limits r r')
    (holds : r.Holds start limits calls) :
    r'.Holds start limits calls ∧ r'.rank start limits calls < r.rank start limits calls := by
  cases tick with
  | @ends now c e before after due =>
    have here : (c, none) ∈ before ++ (c, none) :: after := List.mem_append_cons_self
    have member : c ∈ calls := holds.made ▸ List.mem_map_of_mem (f := Prod.fst) here
    have ended : Fits start limits.call now c (some e) :=
      ⟨due.bounded_le, due.ending_eq (clear c member) (holds.each _ here)⟩
    refine ⟨⟨?_, holds.begun, holds.whole, holds.latest, ?_⟩, ?_⟩
    · rw [← holds.made, List.map_append, List.map_append, List.map_cons, List.map_cons]
    · have each := holds.each
      rw [List.forall_mem_append, List.forall_mem_cons] at each ⊢
      exact ⟨each.1, ended, each.2.2⟩
    · simp only [rank, List.countP_append, List.countP_cons]
      simp
  | @breaksOff slots c waiting =>
    refine ⟨Duration.le_trans (holds.each _ waiting) (holds.le_of_waiting waiting), ?_⟩
    have some : 0 < slots.countP fun slot => slot.2.isNone := List.countP_pos_iff.2 ⟨_, waiting, rfl⟩
    simp only [rank]
    omega
  | @passes now later slots c waiting onward whole each =>
    have first := each c waiting _ _ (due_bounded start limits.call c)
    have last := Duration.le_trans first (holds.le_of_waiting waiting)
    refine ⟨⟨holds.made, ?_, whole, last, ?_⟩, ?_⟩
    · exact Duration.le_trans holds.begun (Nat.le_of_lt onward)
    · rintro ⟨c, e⟩ member
      cases e with
      | none => exact each c member _ _ (due_bounded start limits.call c)
      | some e =>
        obtain ⟨before, same⟩ := holds.each _ member
        exact ⟨Duration.le_trans before (Nat.le_of_lt onward), same⟩
    · rw [Duration.lt_iff_nanos] at onward
      rw [Duration.le_iff_nanos] at last
      simp only [rank]
      omega

theorem exists_tick (onTime : OnTime start limits calls now slots) {c : Call α} (waiting : (c, none) ∈ slots) :
    ∃ r, Tick start limits (.underway now slots) r := by
  by_cases last : now = limits.fetch
  · rw [last]
    exact ⟨_, .breaksOff waiting⟩
  by_cases someDue : ∃ c, (c, none) ∈ slots ∧ now = start + (c.bounded limits.call).delay
  · obtain ⟨c, waiting, due⟩ := someDue
    obtain ⟨before, after, rfl⟩ := List.append_of_mem waiting
    exact ⟨_, .ends before after (due ▸ due_bounded start limits.call c)⟩
  · have goesOn : Tick start limits (.underway now slots) (.underway ⟨now.nanos + 1⟩ slots) := by
      refine .passes waiting (Nat.lt_succ_self _) ?_ ?_
      · exact Nat.lt_of_le_of_ne onTime.whole fun same => last (Duration.eq_iff_nanos.2 same)
      · intro c waiting t e due
        have before : now ≤ start + (c.bounded limits.call).delay := onTime.each _ waiting
        have earlier := Nat.lt_of_le_of_ne before fun same => someDue ⟨c, waiting, Duration.eq_iff_nanos.2 same⟩
        exact Nat.le_trans earlier due.bounded_le
    exact ⟨_, goesOn⟩

theorem OnTime.ended (onTime : OnTime start limits calls now slots) (finished : ∀ slot ∈ slots, slot.2 ≠ none) :
    now = start + slowest limits.call calls ∧
      slots.map Prod.snd = (calls.map fun c => (c.bounded limits.call).ending).map some := by
  have each : ∀ slot ∈ slots, start + (slot.1.bounded limits.call).delay ≤ now ∧
      slot.2 = some (slot.1.bounded limits.call).ending := by
    rintro ⟨c, e⟩ member
    cases e with
    | none => exact absurd rfl (finished _ member)
    | some e =>
      obtain ⟨before, same⟩ := onTime.each _ member
      exact ⟨before, congrArg some same⟩
  constructor
  · have least : slowest limits.call calls ≤ ⟨now.nanos - start.nanos⟩ := by
      apply Duration.longest_le_iff.2
      intro d member
      rw [← onTime.made, List.map_map] at member
      obtain ⟨slot, inside, rfl⟩ := List.mem_map.1 member
      have before := (each slot inside).1
      rw [Duration.le_iff_nanos, Duration.nanos_add] at before
      rw [Duration.le_iff_nanos, Function.comp_apply]
      simp only
      omega
    have most := onTime.latest
    have begun := onTime.begun
    rw [Duration.le_iff_nanos] at least begun most
    rw [Duration.eq_iff_nanos]
    rw [Duration.nanos_add] at most ⊢
    simp only at least
    omega
  · rw [← onTime.made, List.map_map, List.map_map]
    exact List.map_congr_left fun slot member => (each slot member).2

theorem inevitably_round (clear : ∀ c ∈ calls, c.delay ≠ limits.call) (inTime : start ≤ limits.fetch)
    {goal : Round α → Prop} (broken : limits.fetch ≤ start + slowest limits.call calls → goal .broken)
    (ended : ∀ slots, slots.map Prod.snd = (calls.map fun c => (c.bounded limits.call).ending).map some →
      start + slowest limits.call calls ≤ limits.fetch → goal (.underway (start + slowest limits.call calls) slots)) :
    Inevitably (Tick start limits) goal (.begin start calls) := by
  refine inevitably_of_rank (Holds start limits calls) (rank start limits calls) (holds_of_tick clear) ?_ ?_
  · rintro (⟨now, slots⟩ | _) holds
    · by_cases finished : ∀ slot ∈ slots, slot.2 ≠ none
      · obtain ⟨rfl, endings⟩ := holds.ended finished
        exact Or.inl (ended slots endings holds.whole)
      · simp only [Classical.not_forall, ne_eq, Classical.not_not] at finished
        obtain ⟨⟨c, _⟩, waiting, rfl⟩ := finished
        exact Or.inr (exists_tick holds waiting)
    · exact Or.inl (broken holds)
  · refine ⟨?_, Nat.le_refl _, inTime, Duration.le_add_right _ _, ?_⟩
    · rw [List.map_map]
      exact List.map_id calls
    · intro slot member
      obtain ⟨c, -, rfl⟩ := List.mem_map.1 member
      exact Duration.le_add_right _ _

end Round

namespace Plan

variable {ρ : Type} {limits : Limits}

theorem le_outcome (limit start : Duration) (plan : Plan ρ) : start ≤ (plan.outcome limit start).1 := by
  induction plan generalizing start with
  | done => exact Nat.le_refl _
  | round calls next ih => exact Duration.le_trans (Duration.le_add_right _ _) (ih _ _)

/-- Where no two moments coincide, a plan comes to its outcome if that is before the deadline, and is broken off at the
deadline if it is after it. -/
theorem comes_of_outcome {plan : Plan ρ} {start : Duration} (clear : plan.Clear limits.call)
    (apart : (plan.outcome limits.call start).1 ≠ limits.fetch) (inTime : start ≤ limits.fetch)
    {goal : Duration → Option ρ → Prop}
    (before : (plan.outcome limits.call start).1 ≤ limits.fetch →
      goal (plan.outcome limits.call start).1 (some (plan.outcome limits.call start).2))
    (after : limits.fetch < (plan.outcome limits.call start).1 → goal limits.fetch none) :
    plan.Comes limits goal start := by
  induction plan generalizing start with
  | done r => exact before inTime
  | round calls next ih =>
    rw [Comes]
    apply Round.inevitably_round clear.1 inTime
    · intro late
      apply after
      have further : limits.fetch ≤ ((round calls next).outcome limits.call start).1 :=
        Duration.le_trans late (le_outcome limits.call _ _)
      exact Nat.lt_of_le_of_ne further fun same => apart (Duration.eq_iff_nanos.2 same.symm)
    · intro slots endings within
      exact ⟨_, endings, ih _ clear.2 apart within before after⟩

end Plan

end ClusterWatch
