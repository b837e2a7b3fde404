import NodeFeatureOperator.Settings

/-!
# Back-off

How long the operator waits before it tries a failed instance again. Failures in a row are counted
for each instance on its own; every one of them doubles the wait, up to a limit. A conflict is no
failure: somebody else wrote in the meantime, and the next attempt follows after a second. Failures
to which none has been added for twice the longest wait belong to instances that are gone, and are
forgotten.
-/

namespace NodeFeatureOperator

/-- Failures in a row. -/
structure Failures where
  count : Nat
  /-- When the last of them happened. -/
  last : Duration
deriving DecidableEq, Repr, Inhabited

/-- The failures in a row of each instance. -/
structure Backoff where
  failures : Table String Failures := []
  /-- The reading of a clock that never goes back. -/
  now : Duration := .zero
deriving DecidableEq, Inhabited

namespace Backoff

/-- The largest number of 32 bits. -/
def limit : Nat := 4294967295

/-- The number of failures in a row of an instance. -/
def count (b : Backoff) (id : String) : Nat := ((Table.get? b.failures id).map (·.count)).getD 0

/-- How long none has been added to some failures. -/
def idle (b : Backoff) (f : Failures) : Duration := ⟨b.now.nanos - f.last.nanos⟩

/-- How long failures are remembered. -/
def lifetime (s : Settings) : Duration := s.maxErrorRequeue.scale 2

/-- Forgets the failures that are too old. -/
def prune (b : Backoff) (s : Settings) : Backoff :=
  { b with failures := b.failures.filter fun row => b.idle row.2 < lifetime s }

/-- Counts one more failure of an instance. -/
def add (b : Backoff) (id : String) : Backoff :=
  { b with failures := Table.insert b.failures id ⟨min (b.count id + 1) limit, b.now⟩ }

/-- The wait after a failure that `count` others precede. -/
def delay (s : Settings) (count : Nat) : Duration :=
  (s.errorRequeue.scale (min (Nat.pow 2 count) limit)).shorter s.maxErrorRequeue

/-- The wait after an error, which counts unless it is a conflict. -/
def retry (b : Backoff) (s : Settings) (id : String) (e : Error) : Duration × Backoff :=
  if e.isConflict then (.ofSeconds 1, b)
  else
    let b := b.prune s
    (delay s (b.count id), b.add id)

/-- Forgets the failures of an instance. -/
def reset (b : Backoff) (id : String) : Backoff := { b with failures := Table.erase b.failures id }

/-- Lets time pass. -/
def wait (b : Backoff) (d : Duration) : Backoff := { b with now := ⟨b.now.nanos + d.nanos⟩ }

end Backoff

end NodeFeatureOperator
