import AreaOfInterest.Proofs.FlatWorld

/-!
# A world with two zeros

The flat world once more, over rational numbers with a second zero. The negative zero comes about as it does with
doubles, in products, quotients and rounded values with a negative sign. As a number it is the other zero, and it is
sorted before it.

What depends on the two zeros alone can be computed here, while nothing else is rounded.
-/

namespace AreaOfInterest

/-- A rational number, or the negative zero. -/
inductive SignedRat where
  | negativeZero
  | of (value : Rat)
  deriving DecidableEq

namespace SignedRat

/-- The number that is meant. -/
def value : SignedRat → Rat
  | negativeZero => 0
  | of x => x

/-- Whether the sign is negative. -/
def isNegative : SignedRat → Bool
  | negativeZero => true
  | of x => x < 0

/-- The result of an operation. A sign is needed for a zero alone. -/
def ofResult (value : Rat) (negative : Bool) : SignedRat := if value = 0 ∧ negative then negativeZero else of value

/-- The sum is a negative zero only of two of them. -/
def add (x y : SignedRat) : SignedRat := ofResult (x.value + y.value) (x.isNegative && y.isNegative)

/-- The number with the other sign. -/
def neg (x : SignedRat) : SignedRat := ofResult (-x.value) (!x.isNegative)

instance : Scalar SignedRat where
  add := add
  sub x y := x.add y.neg
  mul x y := ofResult (x.value * y.value) (x.isNegative != y.isNegative)
  div x y := ofResult (x.value / y.value) (x.isNegative != y.isNegative)
  neg := neg
  lt x y := x.value < y.value
  le x y := x.value ≤ y.value
  beq x y := x.value == y.value
  min x y := if y.value < x.value then y else x
  max x y := if x.value < y.value then y else x
  ofScientific mantissa sign exponent := of (OfScientific.ofScientific mantissa sign exponent)
  decideLT x y := inferInstanceAs (Decidable (x.value < y.value))
  decideLE x y := inferInstanceAs (Decidable (x.value ≤ y.value))
  sortsBefore x y := x.value < y.value || x.value == y.value && (x = negativeZero || y ≠ negativeZero)
  isFinite _ := true
  isNaN _ := false
  abs x := of (Scalar.abs x.value)
  floor x := ofResult (Scalar.floor x.value) x.isNegative
  ceil x := ofResult (Scalar.ceil x.value) x.isNegative
  round x := ofResult (Scalar.round x.value) x.isNegative
  toInt32 x := Scalar.toInt32 x.value
  pi := of Scalar.pi
  tan x := of (Scalar.tan x.value)
  atan x := of (Scalar.atan x.value)
  exp x := x
  log x := x
  exp2 x := of (Scalar.exp2 x.value)
  log2 x := of (Scalar.log2 x.value)

/-- A position without signs of zero. -/
def unsigned (c : Coord SignedRat) : Coord Rat := ⟨c.x.value, c.y.value⟩

/-- A position with positive zeros. -/
def signed (c : Coord Rat) : Coord SignedRat := ⟨of c.x, of c.y⟩

instance : Surface SignedRat where
  squareMetres p := of (Surface.squareMetres (p.map unsigned))

/-- The planar operations of the flat world. -/
def planarOps : PlanarOps SignedRat where
  isValid shape := FlatWorld.planarOps.isValid (shape.map unsigned)
  buffer? shape distance := (FlatWorld.buffer? (shape.map unsigned) distance.value).map (·.map (·.map signed))
  union := (· ++ ·)

/-- A new editor with the default settings. -/
def start : Editor SignedRat := (Editor.new? .default planarOps).get (by decide +kernel)

/-- The new editor is one. -/
theorem new?_eq_start : Editor.new? .default planarOps = some start := (Option.some_get _).symm

end SignedRat

end AreaOfInterest
