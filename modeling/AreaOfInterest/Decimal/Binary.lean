/-!
# Doubles as exact fractions

A finite double is a sign and a product `mantissa · 2 ^ exponent`. Everything that prints, rounds or
compares doubles exactly starts from this form and goes on in natural numbers.
-/

namespace AreaOfInterest

/-- A signed multiple of a power of two. -/
structure Binary where
  negative : Bool
  mantissa : Nat
  exponent : Int
  deriving DecidableEq, Repr

/-- A quotient of natural numbers. -/
structure Quotient where
  numerator : Nat
  denominator : Nat
  deriving DecidableEq, Repr

namespace Binary

/-- The exact value of a finite double. -/
def ofFloat (x : Float) : Binary :=
  let bits : Nat := x.toBits.toNat
  let fraction := bits % Nat.pow 2 52
  let field : Nat := bits / Nat.pow 2 52 % Nat.pow 2 11
  let negative := bits / Nat.pow 2 63 == 1
  if field = 0 then ⟨negative, fraction, -1074⟩ else ⟨negative, Nat.pow 2 52 + fraction, (field : Int) - 1075⟩

/-- The magnitude as a quotient. -/
def magnitude (b : Binary) : Quotient :=
  if b.exponent ≥ 0 then ⟨b.mantissa * Nat.pow 2 b.exponent.toNat, 1⟩ else ⟨b.mantissa, Nat.pow 2 (-b.exponent).toNat⟩

/-- The value as a whole multiple of `2 ^ unit`, exact when `unit` is not above the exponent. -/
def multipleOf (unit : Int) (b : Binary) : Int :=
  let size : Int := b.mantissa * Nat.pow 2 (b.exponent - unit).toNat
  if b.negative then -size else size

end Binary

namespace Quotient

/-- The quotient times a power of ten. -/
def scale (q : Quotient) (power : Int) : Quotient :=
  if power ≥ 0 then { q with numerator := q.numerator * Nat.pow 10 power.toNat }
  else { q with denominator := q.denominator * Nat.pow 10 (-power).toNat }

/-- The nearest whole number, a half going to the even neighbour. -/
def round (q : Quotient) : Nat :=
  let whole := q.numerator / q.denominator
  let twice := 2 * (q.numerator % q.denominator)
  if twice < q.denominator ∨ (twice = q.denominator ∧ whole % 2 = 0) then whole else whole + 1

/-- The exponent of the leading decimal digit of a positive quotient. -/
def leadingExponent (q : Quotient) : Int :=
  let guess : Int := (Nat.toDigits 10 q.numerator).length - (Nat.toDigits 10 q.denominator).length
  let scaled := q.scale (-guess)
  if scaled.denominator ≤ scaled.numerator then guess else guess - 1

end Quotient

end AreaOfInterest
