/-!
# Shortest decimals

The text of a binary floating-point number is the decimal with the fewest digits that reads back as
the number, and of those the one nearest to it. `Decimal.shortest` finds the digits by exact
arithmetic on natural numbers: a number `m * 2 ^ q` stands for all reals up to half a unit of its
last place away, and a decimal grid has a point among them only if one of the number's two
neighbours on that grid is.
-/

namespace NodeFeatureOperator

/-- A positive decimal `digits * 10 ^ exponent`. -/
structure Decimal where
  digits : Nat
  exponent : Int
deriving Repr, DecidableEq, Inhabited

namespace Decimal

/-- A non-negative rational number as a numerator and a positive denominator. -/
structure Ratio where
  num : Nat
  den : Nat

namespace Ratio

/-- The rational number `n * base ^ e`. -/
def scaled (n base : Nat) (e : Int) : Ratio :=
  if e ≥ 0 then ⟨n * Nat.pow base e.toNat, 1⟩ else ⟨n, Nat.pow base (-e).toNat⟩

/-- Whether `a` is at most `b`. -/
def le (a b : Ratio) : Bool := a.num * b.den ≤ b.num * a.den

/-- Whether `a` is less than `b`. -/
def lt (a b : Ratio) : Bool := a.num * b.den < b.num * a.den

/-- The distance of two rational numbers. -/
def dist (a b : Ratio) : Ratio :=
  let x := a.num * b.den
  let y := b.num * a.den
  ⟨if x ≤ y then y - x else x - y, a.den * b.den⟩

end Ratio

/-- The number of decimal digits of a natural number. -/
def width (n : Nat) : Nat := (Nat.toDigits 10 n).length

/-- The exponent of the leading decimal digit of a positive rational number above `10 ^ (-350)`. -/
def magnitude (x : Ratio) : Int := width (x.num * Nat.pow 10 350 / x.den) - 351

/-- The reals that round to `m * 2 ^ q`: a lower end, an upper end, and whether the ends belong. -/
structure Rounding where
  lower : Ratio
  upper : Ratio
  closed : Bool

/-- The reals that round to `m * 2 ^ q` among the numbers of 53 bits. Below a power of two the
numbers lie twice as close, so the lower end is nearer there. -/
def Rounding.of (m : Nat) (q : Int) : Rounding where
  lower :=
    if m = Nat.pow 2 52 ∧ q > -1074 then Ratio.scaled (4 * m - 1) 2 (q - 2)
    else Ratio.scaled (2 * m - 1) 2 (q - 1)
  upper := Ratio.scaled (2 * m + 1) 2 (q - 1)
  closed := m % 2 = 0

/-- Whether a rational number rounds to the number of the interval. -/
def Rounding.contains (r : Rounding) (x : Ratio) : Bool :=
  if r.closed then r.lower.le x && x.le r.upper else r.lower.lt x && x.lt r.upper

/-- The decimal of `count` digits that reads back as `m * 2 ^ q`, if there is one: of the two
neighbours on the grid the nearer that does. -/
def ofWidth? (m : Nat) (q : Int) (count : Nat) : Option Decimal :=
  let value := Ratio.scaled m 2 q
  let interval := Rounding.of m q
  let e := magnitude value - (count - 1)
  let below := value.num * (Ratio.scaled 1 10 (-e)).num / (value.den * (Ratio.scaled 1 10 (-e)).den)
  let point := fun d => Ratio.scaled d 10 e
  match interval.contains (point below), interval.contains (point (below + 1)) with
  | false, false => none
  | true, false => some ⟨below, e⟩
  | false, true => some ⟨below + 1, e⟩
  | true, true =>
    if (value.dist (point below)).le (value.dist (point (below + 1))) then some ⟨below, e⟩
    else some ⟨below + 1, e⟩

/-- The decimal with the fewest digits that reads back as `m * 2 ^ q`. Seventeen always do. -/
def shortest (m : Nat) (q : Int) : Decimal :=
  ((List.range 17).findSome? fun i => ofWidth? m q (i + 1)).getD ⟨m, 0⟩

/-- The decimal without the zeros at the end of its digits. -/
def trim (d : Decimal) : Nat → Decimal
  | 0 => d
  | fuel + 1 =>
    if d.digits ≠ 0 ∧ d.digits % 10 = 0 then trim ⟨d.digits / 10, d.exponent + 1⟩ fuel else d

/-- A decimal as text: positional from `0.00001` to below `10 ^ 16`, always with a decimal point
there, else with an exponent. -/
def toText (d : Decimal) : String :=
  let d := d.trim 20
  let digits := Nat.toDigits 10 d.digits
  let n : Int := digits.length
  let point := n + d.exponent
  if 0 ≤ d.exponent ∧ point ≤ 16 then
    String.ofList (digits ++ List.replicate d.exponent.toNat '0') ++ ".0"
  else if 0 < point ∧ point ≤ 16 then
    String.ofList (digits.take point.toNat) ++ "." ++ String.ofList (digits.drop point.toNat)
  else if -5 < point ∧ point ≤ 0 then
    "0." ++ String.ofList (List.replicate (-point).toNat '0' ++ digits)
  else
    let mantissa :=
      if n = 1 then String.ofList digits
      else String.ofList (digits.take 1) ++ "." ++ String.ofList (digits.drop 1)
    mantissa ++ "e" ++ toString (point - 1)

end Decimal

/-- The 64 bits of a binary floating-point number. -/
abbrev Binary64 := UInt64

namespace Binary64

/-- Whether the sign bit is set. -/
def negative (bits : Binary64) : Bool := bits.toNat / Nat.pow 2 63 = 1

/-- The exponent field. -/
def exponentField (bits : Binary64) : Nat := bits.toNat / Nat.pow 2 52 % Nat.pow 2 11

/-- The fraction field. -/
def fraction (bits : Binary64) : Nat := bits.toNat % Nat.pow 2 52

/-- Whether the number is finite. -/
def finite (bits : Binary64) : Bool := exponentField bits ≠ 2047

/-- The text of a finite number. -/
def toText (bits : Binary64) : String :=
  let e := exponentField bits
  let m := if e = 0 then fraction bits else fraction bits + Nat.pow 2 52
  let q : Int := (if e = 0 then 1 else e) - 1075
  let body := if m = 0 then "0.0" else (Decimal.shortest m q).toText
  if negative bits then "-" ++ body else body

/-- The number nearest to a quotient of two natural numbers, computed in one division. -/
def ofQuotient (num den : Nat) : Binary64 := (Float.ofNat num / Float.ofNat den).toBits

/-- The sum of two numbers. -/
def add (a b : Binary64) : Binary64 := (Float.ofBits a + Float.ofBits b).toBits

/-- Whether `a` is at most `b`. -/
def le (a b : Binary64) : Bool := Float.ofBits a ≤ Float.ofBits b

/-- The number nearest to `significand * 10 ^ exponent`, if it is finite. -/
def nearest? (negative : Bool) (significand : Nat) (exponent : Int) : Option Binary64 :=
  let signed := fun (x : Float) => (if negative then -x else x).toBits
  let places : Int := Decimal.width significand + exponent
  if significand = 0 ∨ places < -330 then some (signed 0.0)
  else if places > 310 then none
  else
    let x := Float.ofScientific significand (exponent < 0) exponent.natAbs
    if x.isInf then none else some (signed x)

/-- The number `significand * 10 ^ exponent`, rounded after the significand and again after each
multiplication or division by a power of ten; `none` when it is too large. -/
def ofDecimal? (negative : Bool) (significand : UInt64) (exponent : Int) : Option Binary64 :=
  let signed := fun (x : Float) => (if negative then -x else x).toBits
  let power := fun (k : Nat) => Float.ofScientific 1 false k
  let x := significand.toFloat
  if significand = 0 then some (signed 0.0)
  else if exponent ≥ 0 then
    if exponent > 308 then none
    else
      let y := x * power exponent.toNat
      if y.isInf then none else some (signed y)
  else
    let k := (-exponent).toNat
    if k ≤ 308 then some (signed (x / power k))
    else
      let x := x / power 308
      if k ≤ 616 then some (signed (x / power (k - 308)))
      else some (signed 0.0)

end Binary64

end NodeFeatureOperator
