import ClusterWatch.Duration

namespace ClusterWatch

structure Cadence where
  interval : Duration
  positive : 0 < interval.nanos
  deriving Repr

namespace Cadence

/-- There is no loop without time between its passes: it crashes before the first one. -/
def ofInterval? (interval : Duration) : Option Cadence :=
  if h : 0 < interval.nanos then some ⟨interval, h⟩ else none

variable {σ : Type}

abbrev Pass (σ : Type) := Nat → Duration → σ → Duration × σ

def due (c : Cadence) (k : Nat) : Duration :=
  ⟨k * c.interval.nanos⟩

structure Course (σ : Type) where
  starts : List Duration
  finish : Duration
  state : σ

/-- Goes on from the pass of number `k`, the one before having ended at `free`. If the stop has been told and a pass
is due at the same time, `ties` tells whether the pass is begun; once they are used up, it is not. -/
def loop (c : Cadence) (stop : Duration) (pass : Pass σ) :
    Nat → List Bool → Nat → Duration → σ → Course σ
  | 0, _, _, free, state => ⟨[], free, state⟩
  | fuel + 1, ties, k, free, state =>
    let go (ties : List Bool) (start : Duration) : Course σ :=
      let (took, state) := pass k start state
      let rest := loop c stop pass fuel ties (k + 1) (start + took) state
      { rest with starts := start :: rest.starts }
    if free < stop then
      if Duration.max (c.due k) free < stop then go ties (Duration.max (c.due k) free)
      else ⟨[], stop, state⟩
    else if c.due k ≤ free then
      match ties with
      | true :: ties => go ties free
      | _ => ⟨[], free, state⟩
    else ⟨[], free, state⟩

/-- A pass before the stop begins no earlier than it is due, which bounds their number. -/
def run (c : Cadence) (stop : Duration) (ties : List Bool) (pass : Pass σ) (state : σ) : Course σ :=
  loop c stop pass (stop.nanos / c.interval.nanos + 2 + ties.length) ties 0 0 state

end Cadence

end ClusterWatch
