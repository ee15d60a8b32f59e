import AreaOfInterest.Proofs.FlatWorld

/-!
# A world with undefined numbers

The flat world once more, over rational numbers and one value that is none. It comes about by dividing by zero, and
every operation on it gives it again. As with doubles, it is not below, above or equal to anything, itself included, and
the smaller or the larger of it and a number is the number.

What depends on undefined values alone can be computed here, while nothing is rounded.
-/

namespace AreaOfInterest

/-- A rational number, or no number. -/
inductive PartialRat where
  | undefined
  | of (value : Rat)
  deriving DecidableEq

namespace PartialRat

/-- The number that is meant; zero for none. -/
def value : PartialRat → Rat
  | undefined => 0
  | of x => x

/-- Whether it is a number. -/
def isDefined : PartialRat → Bool
  | undefined => false
  | of _ => true

/-- An operation on numbers that is undefined without one. -/
def map (f : Rat → Rat) : PartialRat → PartialRat
  | undefined => undefined
  | of x => of (f x)

/-- An operation on two numbers that is undefined without one of them. -/
def map₂ (f : Rat → Rat → Rat) : PartialRat → PartialRat → PartialRat
  | of x, of y => of (f x y)
  | _, _ => undefined

/-- A relation of numbers that does not hold without one of them. -/
def rel (r : Rat → Rat → Bool) : PartialRat → PartialRat → Bool
  | of x, of y => r x y
  | _, _ => false

/-- Quotients by zero are undefined. -/
def div (x y : PartialRat) : PartialRat := if y = of 0 then undefined else map₂ (· / ·) x y

instance : Scalar PartialRat where
  add := map₂ (· + ·)
  sub := map₂ (· - ·)
  mul := map₂ (· * ·)
  div := div
  neg := map (- ·)
  lt x y := rel (· < ·) x y
  le x y := rel (· ≤ ·) x y
  beq := rel (· == ·)
  min x y := if x = undefined ∨ rel (· < ·) y x then y else x
  max x y := if x = undefined ∨ rel (· < ·) x y then y else x
  ofScientific mantissa sign exponent := of (OfScientific.ofScientific mantissa sign exponent)
  decideLT x y := inferInstanceAs (Decidable (rel (· < ·) x y))
  decideLE x y := inferInstanceAs (Decidable (rel (· ≤ ·) x y))
  sortsBefore x y := !rel (· < ·) y x && (x.isDefined || !y.isDefined)
  isFinite := isDefined
  isNaN x := !x.isDefined
  abs := map Scalar.abs
  floor := map Scalar.floor
  ceil := map Scalar.ceil
  round := map Scalar.round
  toInt32 x := Scalar.toInt32 x.value
  pi := of Scalar.pi
  tan := map Scalar.tan
  atan := map Scalar.atan
  exp x := x
  log x := x
  exp2 := map Scalar.exp2
  log2 := map Scalar.log2

/-- A position by its numbers. -/
def number (c : Coord PartialRat) : Coord Rat := ⟨c.x.value, c.y.value⟩

/-- Whether all positions of a shape are numbers. -/
def allDefined (shape : Shape PartialRat) : Bool := shape.coords.all fun c => c.x.isDefined && c.y.isDefined

instance : Surface PartialRat where
  squareMetres p := if allDefined (.polygon p) then of (Surface.squareMetres (p.map number)) else undefined

/-- The planar operations of the flat world. Without numbers a shape is not valid and has no outline. -/
def planarOps : PlanarOps PartialRat where
  isValid shape := allDefined shape && FlatWorld.planarOps.isValid (shape.map number)
  buffer? shape distance :=
    if allDefined shape && distance.isDefined then
      (FlatWorld.buffer? (shape.map number) distance.value).map (·.map (·.map fun c => ⟨of c.x, of c.y⟩))
    else none
  union := (· ++ ·)

/-- A new editor with the default settings. -/
def start : Editor PartialRat := (Editor.new? .default planarOps).get (by decide +kernel)

/-- The new editor is one. -/
theorem new?_eq_start : Editor.new? .default planarOps = some start := (Option.some_get _).symm

end PartialRat

end AreaOfInterest
