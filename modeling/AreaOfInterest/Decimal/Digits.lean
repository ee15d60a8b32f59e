import AreaOfInterest.Decimal.Binary

/-!
# Decimal digits of doubles

Three ways to write the magnitude of a finite double in decimal: the fewest digits that read back as
the same double, a given number of significant digits, and a given number of decimal places. All of
them work on the exact value. Rounding goes to the nearest, a half to the even neighbour.
-/

namespace AreaOfInterest

/-- The number `coefficient · 10 ^ exponent`. -/
structure Decimal where
  coefficient : Nat
  exponent : Int
  deriving DecidableEq, Repr

namespace Decimal

/-- The value with no zero at the end of its coefficient; at most `fuel` zeros are taken off. -/
def trimmed (fuel : Nat) (d : Decimal) : Decimal :=
  match fuel with
  | 0 => d
  | fuel + 1 =>
    if d.coefficient % 10 = 0 ∧ d.coefficient ≠ 0 then trimmed fuel ⟨d.coefficient / 10, d.exponent + 1⟩ else d

/-- The reals that round to a positive double, as multiples of a quarter of its last binary place:
lower end, value, upper end, and whether the ends belong to it. -/
structure RoundingInterval where
  lower : Nat
  value : Nat
  upper : Nat
  closed : Bool

/-- The reals that round to `b`. Below a power of two the spacing halves, except at the smallest exponent. -/
def RoundingInterval.ofBinary (b : Binary) : RoundingInterval :=
  let step := if b.mantissa = Nat.pow 2 52 ∧ b.exponent > -1074 then 1 else 2
  ⟨4 * b.mantissa - step, 4 * b.mantissa, 4 * b.mantissa + 2, b.mantissa % 2 == 0⟩

/-- Whether the quotient with numerator `n` lies in the interval scaled by `unit`. -/
def RoundingInterval.holds (i : RoundingInterval) (unit n : Nat) : Bool :=
  if i.closed then i.lower * unit ≤ n && n ≤ i.upper * unit else i.lower * unit < n && n < i.upper * unit

/-- The nearer of the two grid points around a positive double that reads back as it, on the grid of
`10 ^ exponent`; none when neither does. -/
def onGrid? (b : Binary) (exponent : Int) : Option Decimal :=
  let interval := RoundingInterval.ofBinary b
  -- one quarter of the last place is `unit / grid` steps of the decimal grid
  let quarter : Quotient := (Binary.magnitude ⟨false, 1, b.exponent - 2⟩).scale (-exponent)
  let below := interval.value * quarter.numerator / quarter.denominator
  let fits (n : Nat) := interval.holds quarter.numerator (n * quarter.denominator)
  let target := interval.value * quarter.numerator
  let downGap := target - below * quarter.denominator
  let upGap := (below + 1) * quarter.denominator - target
  match fits below, fits (below + 1) with
  | true, true =>
    if downGap < upGap ∨ (downGap = upGap ∧ below % 2 = 0) then some ⟨below, exponent⟩ else some ⟨below + 1, exponent⟩
  | true, false => some ⟨below, exponent⟩
  | false, true => some ⟨below + 1, exponent⟩
  | false, false => none

/-- The fewest digits that read back as the finite double `x`; of equally short ones the nearest. -/
def shortest (x : Float) : Decimal :=
  let b := Binary.ofFloat x
  if b.mantissa = 0 then ⟨0, 0⟩
  else
    let leading := b.magnitude.leadingExponent
    match (List.range 17).findSome? fun (n : Nat) => onGrid? b (leading - n) with
    | some d => d.trimmed 17
    | none => ⟨0, 0⟩

/-- The finite double `x` to `digits` significant digits. -/
def significant (digits : Nat) (x : Float) : Decimal :=
  let b := Binary.ofFloat x
  if b.mantissa = 0 then ⟨0, 0⟩
  else
    let exponent := b.magnitude.leadingExponent - (digits - 1 : Nat)
    ⟨(b.magnitude.scale (-exponent)).round, exponent⟩

/-- The finite double `x` to `places` decimal places. -/
def fixed (places : Nat) (x : Float) : Decimal :=
  ⟨((Binary.ofFloat x).magnitude.scale places).round, -(places : Int)⟩

/-- The nearest double; infinite beyond the largest one. -/
def toFloat (d : Decimal) : Float :=
  let leading := d.exponent + (Nat.toDigits 10 d.coefficient).length
  if d.coefficient = 0 ∨ leading < -330 then 0.0
  else if leading > 310 then 1.0 / 0.0
  else if d.exponent ≥ 0 then Float.ofScientific d.coefficient false d.exponent.toNat
  else Float.ofScientific d.coefficient true (-d.exponent).toNat

end Decimal

end AreaOfInterest
