import AreaOfInterest.Decimal.Digits

/-!
# Numerals

A numeral as it is spelled: digits before the point, digits after it and a decimal exponent. Its double is
the one nearest to its exact value. The spelling read here is the liberal one of command lines: a sign, digits
with a point anywhere among them, an exponent, and names for infinity and NaN in any case.
-/

namespace AreaOfInterest

/-- The parts of a decimal numeral without its sign. -/
structure Numeral where
  whole : List Nat
  places : List Nat
  exponent : Int
  deriving DecidableEq, Repr

namespace Numeral

/-- The number that digits spell in a base. -/
def ofDigits (base : Nat) (digits : List Nat) : Nat := digits.foldl (fun n d => n * base + d) 0

/-- The value of a numeral. -/
def toDecimal (n : Numeral) : Decimal := ⟨ofDigits 10 (n.whole ++ n.places), n.exponent - n.places.length⟩

/-- The double nearest to a numeral with a sign. -/
def toFloat (negative : Bool) (n : Numeral) : Float := if negative then -n.toDecimal.toFloat else n.toDecimal.toFloat

/-- The value of a decimal digit. -/
def digit (c : Char) : Nat := c.toNat - '0'.toNat

/-- Splits off a leading sign: whether it is a minus, and the rest. -/
def splitSign : List Char → Bool × List Char
  | '-' :: rest => (true, rest)
  | '+' :: rest => (false, rest)
  | cs => (false, cs)

/-- The exponent that digits with an optional sign spell. -/
def exponent? (cs : List Char) : Option Int :=
  let (negative, digits) := splitSign cs
  if digits.isEmpty || !digits.all Char.isDigit then none
  else
    let size : Nat := ofDigits 10 (digits.map digit)
    some (if negative then -(size : Int) else size)

/-- The numeral that digits with a point and an exponent spell, at least one digit before the exponent. -/
def ofChars? (cs : List Char) : Option Numeral :=
  let whole := cs.takeWhile Char.isDigit
  let rest := cs.dropWhile Char.isDigit
  let (places, rest) := match rest with
    | '.' :: rest => (rest.takeWhile Char.isDigit, rest.dropWhile Char.isDigit)
    | _ => ([], rest)
  if whole.isEmpty && places.isEmpty then none
  else
    match rest with
    | [] => some ⟨whole.map digit, places.map digit, 0⟩
    | 'e' :: power | 'E' :: power => (exponent? power).map (⟨whole.map digit, places.map digit, ·⟩)
    | _ => none

/-- The double that a text spells. -/
def float? (text : String) : Option Float :=
  let (negative, cs) := splitSign text.toList
  match String.ofList (cs.map Char.toLower) with
  | "inf" | "infinity" => some (if negative then -1.0 / 0.0 else 1.0 / 0.0)
  | "nan" => some (0.0 / 0.0)
  | _ => (ofChars? cs).map (toFloat negative)

end Numeral

end AreaOfInterest
