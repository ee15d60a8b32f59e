/-!
# Scalars

Coordinates, distances and resolutions are numbers of a type `α` with the operations below.
The map core is written once over this interface: it runs on doubles and can be read over an
exact field.

Order and equality are the numeric ones, so on doubles a NaN is neither below, above nor equal to
anything and the two zeros are equal. `min` and `max` pass over a NaN operand.
-/

namespace AreaOfInterest

/-- The arithmetic that the map core is written over. -/
class Scalar (α : Type) extends Add α, Sub α, Mul α, Div α, Neg α, LT α, LE α, BEq α, Min α, Max α,
    OfScientific α where
  /-- The strict order is decidable. -/
  decideLT : DecidableLT α
  /-- The order is decidable. -/
  decideLE : DecidableLE α
  /-- The total order used for sorting; on doubles it also separates the two zeros. -/
  sortsBefore : α → α → Bool
  /-- Neither infinite nor NaN. -/
  isFinite : α → Bool
  /-- Not a number. -/
  isNaN : α → Bool
  /-- Distance from zero. -/
  abs : α → α
  /-- The largest whole number that is not above. -/
  floor : α → α
  /-- The smallest whole number that is not below. -/
  ceil : α → α
  /-- The nearest whole number, a half going away from zero. -/
  round : α → α
  /-- A whole number as an integer, kept within 32 bits; zero for NaN. -/
  toInt32 : α → Int
  /-- Half the turn of a unit circle. -/
  pi : α
  /-- Tangent. -/
  tan : α → α
  /-- Inverse tangent. -/
  atan : α → α
  /-- Natural exponential. -/
  exp : α → α
  /-- Natural logarithm. -/
  log : α → α
  /-- Two to the given power. -/
  exp2 : α → α
  /-- Logarithm to base two. -/
  log2 : α → α

namespace Scalar

attribute [reducible, instance] Scalar.decideLT Scalar.decideLE

variable {α : Type} [Scalar α]

/-- A natural number as a scalar. -/
def ofNat (n : Nat) : α := OfScientific.ofScientific n false 0

/-- `x` moved to the nearer end of `lo … hi` when it lies outside. Meant for `lo ≤ hi`. -/
def clamp (lo hi x : α) : α :=
  if x < lo then lo else if x > hi then hi else x

/-- Sum from left to right. It starts at the negative zero, which leaves every scalar as it is. -/
def sum (xs : List α) : α := xs.foldl (· + ·) (-0.0)

end Scalar

namespace Double

/-- Rank of a double in the total order of its bit patterns: negative values downwards, then the positive ones. -/
def rank (x : Float) : Int :=
  let bits := x.toBits.toNat
  if bits < Nat.pow 2 63 then bits else (Nat.pow 2 63 : Int) - 1 - bits

/-- The smaller of two doubles; a NaN gives way, and of two equal values the first is kept. -/
def lesser (x y : Float) : Float :=
  if x.isNaN then y else if y < x then y else x

/-- The larger of two doubles; a NaN gives way, and of two equal values the first is kept. -/
def greater (x y : Float) : Float :=
  if x.isNaN then y else if x < y then y else x

end Double

/-- Doubles, with correctly rounded basic operations and the platform's transcendental ones. -/
instance : Scalar Float where
  decideLT := inferInstance
  decideLE := inferInstance
  min := Double.lesser
  max := Double.greater
  sortsBefore x y := Double.rank x ≤ Double.rank y
  isFinite := Float.isFinite
  isNaN := Float.isNaN
  abs := Float.abs
  floor := Float.floor
  ceil := Float.ceil
  round := Float.round
  toInt32 x := x.toInt32.toInt
  pi := 3.141592653589793
  tan := Float.tan
  atan := Float.atan
  exp := Float.exp
  log := Float.log
  exp2 := Float.exp2
  log2 := Float.log2

end AreaOfInterest
