/-!
# Durations

A span of time in whole nanoseconds. The longest span counts `2 ^ 64 - 1` whole seconds and all the
nanoseconds of one more but one; multiplication stops there. A span is written in the largest unit
of which it holds at least one, with as many decimals as it needs.
-/

namespace NodeFeatureOperator

/-- A span of time. -/
structure Duration where
  nanos : Nat
deriving DecidableEq, Repr, Inhabited

namespace Duration

instance : LE Duration := ⟨fun a b => a.nanos ≤ b.nanos⟩
instance : LT Duration := ⟨fun a b => a.nanos < b.nanos⟩
instance (a b : Duration) : Decidable (a ≤ b) := inferInstanceAs (Decidable (a.nanos ≤ b.nanos))
instance (a b : Duration) : Decidable (a < b) := inferInstanceAs (Decidable (a.nanos < b.nanos))

/-- The empty span. -/
def zero : Duration := ⟨0⟩

/-- A span of whole seconds. -/
def ofSeconds (n : Nat) : Duration := ⟨n * 1000000000⟩

/-- A span of whole milliseconds. -/
def ofMillis (n : Nat) : Duration := ⟨n * 1000000⟩

/-- The whole milliseconds of a span. -/
def toMillis (d : Duration) : Nat := d.nanos / 1000000

/-- The whole seconds of a span. -/
def toSeconds (d : Duration) : Nat := d.nanos / 1000000000

/-- The longest span. -/
def longest : Duration := ⟨18446744073709551615 * 1000000000 + 999999999⟩

/-- The span `n` times as long, or the longest span if that would be longer. -/
def scale (d : Duration) (n : Nat) : Duration := ⟨min (d.nanos * n) longest.nanos⟩

/-- The shorter of two spans. -/
def shorter (a b : Duration) : Duration := ⟨min a.nanos b.nanos⟩

/-- The digits of a fraction `part / 10 ^ places`, without the zeros at its end. -/
def fractionDigits (part places : Nat) : List Char :=
  let digits := Nat.toDigits 10 part
  let padded := List.replicate (places - digits.length) '0' ++ digits
  (padded.reverse.dropWhile (· = '0')).reverse

/-- A number of units of `10 ^ places` parts each, with its unit. -/
def inUnit (parts places : Nat) (unit : String) : String :=
  let fraction := parts % Nat.pow 10 places
  let whole := toString (parts / Nat.pow 10 places)
  if fraction = 0 then whole ++ unit
  else whole ++ "." ++ String.ofList (fractionDigits fraction places) ++ unit

/-- The text of a span. -/
def toText (d : Duration) : String :=
  if d.nanos ≥ 1000000000 then inUnit d.nanos 9 "s"
  else if d.nanos ≥ 1000000 then inUnit d.nanos 6 "ms"
  else if d.nanos ≥ 1000 then inUnit d.nanos 3 "µs"
  else inUnit d.nanos 0 "ns"

end Duration

end NodeFeatureOperator
