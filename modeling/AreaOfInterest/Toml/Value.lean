/-!
# TOML values

What a TOML document holds once it is read. Dates and times are told apart from other values but their parts
are not kept. The entries of a table are in the order of the document.
-/

namespace AreaOfInterest

/-- A TOML value. -/
inductive Toml where
  | string (value : String)
  | integer (value : Int)
  | float (value : Float)
  | boolean (value : Bool)
  /-- A date, a time or both. -/
  | moment
  | array (items : List Toml)
  | table (entries : List (String × Toml))
  deriving Inhabited

namespace Toml

/-- The entry of a table; other values have none. -/
def entry? (key : String) : Toml → Option Toml
  | table entries => entries.lookup key
  | _ => none

/-- The text of a string. -/
def text? : Toml → Option String
  | string s => some s
  | _ => none

/-- The double of a number; whole numbers count as numbers. -/
def float? : Toml → Option Float
  | integer n => some (if n < 0 then -Float.ofNat n.natAbs else Float.ofNat n.natAbs)
  | float x => some x
  | _ => none

/-- The whole number of an integer from zero up to `limit`. -/
def natUpTo? (limit : Nat) : Toml → Option Nat
  | integer n => if 0 ≤ n ∧ n ≤ limit then some n.toNat else none
  | _ => none

end Toml

end AreaOfInterest
