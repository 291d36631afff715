import ClusterWatch.Instant.Reader

namespace ClusterWatch.History

structure Window where
  since : Option String := none
  till : Option String := none
  deriving Repr, DecidableEq

namespace Window

def usualSpan : Int := 24 * 3600

/-- A bound that is missing or no time falls back to the day before now. There is no such day at the very beginning of
time. -/
def resolve? (w : Window) (now : Instant) : Option (Instant × Instant) :=
  (now.minusSeconds? usualSpan).map fun dayBefore =>
    ((w.since.bind Instant.ofText?).getD dayBefore, (w.till.bind Instant.ofText?).getD now)

end Window

end ClusterWatch.History
