/-!
# Hexadecimal digits

Digits to base sixteen, read in either case and written in the case that is asked for.
-/

namespace AreaOfInterest.Hexadecimal

/-- The value of a digit. -/
def digit? (c : Char) : Option Nat :=
  if '0' ≤ c ∧ c ≤ '9' then some (c.toNat - '0'.toNat)
  else if 'a' ≤ c ∧ c ≤ 'f' then some (c.toNat - 'a'.toNat + 10)
  else if 'A' ≤ c ∧ c ≤ 'F' then some (c.toNat - 'A'.toNat + 10)
  else none

/-- The number that digits spell. -/
def ofDigits (digits : List Nat) : Nat := digits.foldl (fun n d => n * 16 + d) 0

/-- A number in lower case. -/
def lower (n : Nat) : List Char := Nat.toDigits 16 n

/-- A byte as two digits in upper case. -/
def byte (b : UInt8) : List Char := [b.toNat / 16, b.toNat % 16].map fun d => (Nat.digitChar d).toUpper

end AreaOfInterest.Hexadecimal
