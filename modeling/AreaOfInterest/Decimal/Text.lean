import AreaOfInterest.Decimal.Digits

/-!
# Texts of doubles

How the digits of a double are laid out. A layout says which decimal exponents are written
positionally, whether a whole number keeps one place after the point, and what the special values
are called. Positional texts never drop a digit: zeros fill the gap to the point on either side.
-/

namespace AreaOfInterest.Decimal

/-- The digits of `n`, with zeros in front up to `width`. -/
def padded (width n : Nat) : List Char :=
  let digits := Nat.toDigits 10 n
  List.replicate (width - digits.length) '0' ++ digits

/-- Whole part, point and places of a value whose exponent is not positive; no point without places. -/
def positional (d : Decimal) : List Char :=
  if d.exponent ≥ 0 then Nat.toDigits 10 (d.coefficient * Nat.pow 10 d.exponent.toNat)
  else
    let places := (-d.exponent).toNat
    let digits := padded (places + 1) d.coefficient
    digits.take (digits.length - places) ++ '.' :: digits.drop (digits.length - places)

/-- One leading digit, the other digits after a point, and the exponent with its sign. -/
def scientific (d : Decimal) : List Char :=
  let digits := Nat.toDigits 10 d.coefficient
  let exponent := d.exponent + (digits.length - 1 : Nat)
  let fraction := if digits.length ≤ 1 then [] else '.' :: digits.tail
  let sign := if exponent < 0 then '-' else '+'
  digits.take 1 ++ fraction ++ 'e' :: sign :: Nat.toDigits 10 exponent.natAbs

/-- The sign of a double as text. -/
def signText (x : Float) : List Char := if (Binary.ofFloat x).negative then ['-'] else []

/-- The layout of numbers in JSON: positional from `10⁻⁵` up to below `10¹⁶` with at least one place,
else with an exponent. Values that are not finite have no JSON form and read `null`. -/
def jsonText (x : Float) : String :=
  if !x.isFinite then "null"
  else
    let d := shortest x
    let exponent := d.exponent + ((Nat.toDigits 10 d.coefficient).length - 1 : Nat)
    let body :=
      if -5 ≤ exponent ∧ exponent ≤ 15 then
        if d.exponent ≥ 0 then positional d ++ ['.', '0'] else positional d
      else scientific d
    String.ofList (signText x ++ body)

/-- The plain layout: always positional, no point in a whole number. -/
def plainText (x : Float) : String :=
  if x.isNaN then "NaN"
  else if x.isInf then (if x < 0 then "-inf" else "inf")
  else String.ofList (signText x ++ positional (shortest x))

/-- The layout with a fixed number of decimal places. -/
def fixedText (places : Nat) (x : Float) : String :=
  if x.isNaN then "NaN"
  else if x.isInf then (if x < 0 then "-inf" else "inf")
  else String.ofList (signText x ++ positional (fixed places x))

end AreaOfInterest.Decimal
