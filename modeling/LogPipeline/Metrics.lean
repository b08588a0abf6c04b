import LogPipeline.Decimal.Binary64

/-!
# Metrics

Counters of what became of the events given to a dispatcher.
-/

namespace LogPipeline

/-- What is counted. -/
inductive Counter where
  | enqueued
  | delivered
  | discarded
  | dropped
  | blocked
  | failed
deriving DecidableEq, Repr

/-- The counters of a dispatcher. -/
structure Metrics where
  enqueued : Nat
  delivered : Nat
  /-- Events shed because the queue was nearly full. -/
  discarded : Nat
  /-- Events shed because the queue was full and nobody was to wait. -/
  dropped : Nat
  /-- How often somebody had to wait for room in the queue. -/
  blocked : Nat
  /-- Events that were not delivered without trouble. -/
  failed : Nat
deriving DecidableEq, Repr

namespace Metrics

/-- Nothing counted yet. -/
def zero : Metrics := ⟨0, 0, 0, 0, 0, 0⟩

/-- The value of a counter. -/
def get (metrics : Metrics) : Counter → Nat
  | .enqueued => metrics.enqueued
  | .delivered => metrics.delivered
  | .discarded => metrics.discarded
  | .dropped => metrics.dropped
  | .blocked => metrics.blocked
  | .failed => metrics.failed

/-- One more of what a counter counts. -/
def count (metrics : Metrics) : Counter → Metrics
  | .enqueued => { metrics with enqueued := metrics.enqueued + 1 }
  | .delivered => { metrics with delivered := metrics.delivered + 1 }
  | .discarded => { metrics with discarded := metrics.discarded + 1 }
  | .dropped => { metrics with dropped := metrics.dropped + 1 }
  | .blocked => { metrics with blocked := metrics.blocked + 1 }
  | .failed => { metrics with failed := metrics.failed + 1 }

/-- The number of events that were shed. -/
def lost (metrics : Metrics) : Nat :=
  metrics.discarded + metrics.dropped

/-- A counter as a double precision number. -/
def asReal (count : Nat) : Float :=
  (Decimal.Binary64.ofRatio false count 1).toFloat

/-- The share of the events that were shed, in percent. -/
def lossRate (metrics : Metrics) : Decimal.Binary64 :=
  let lost := asReal metrics.lost
  let total := asReal metrics.enqueued + lost
  if metrics.enqueued + metrics.lost = 0 then
    Decimal.Binary64.ofRatio false 0 1
  else
    .ofFloat (lost / total * 100)

end Metrics

end LogPipeline
