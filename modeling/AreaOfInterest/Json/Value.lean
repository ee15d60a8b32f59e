import AreaOfInterest.Decimal.Text

/-!
# JSON values

Whole numbers of up to 64 bits are kept apart from doubles. The members of an object are a list: a value
that was read, or that `sorted` has put in order, has them in increasing order of their keys, and a value
made for writing keeps the order it should be written in.
-/

namespace AreaOfInterest

/-- A number as JSON text tells it apart: a whole number of at most 64 bits, or a double. -/
inductive Json.Number where
  | whole (value : Int)
  | real (value : Float)

/-- A JSON value. -/
inductive Json where
  | null
  | bool (value : Bool)
  | number (value : Json.Number)
  | string (value : String)
  | array (items : List Json)
  | object (members : List (String × Json))
  deriving Inhabited

namespace Json

/-- The members of an object. -/
abbrev Members := List (String × Json)

/-- The nearest double. -/
def Number.toFloat : Number → Float
  | whole n => if n < 0 then -Float.ofNat n.natAbs else Float.ofNat n.natAbs
  | real x => x

/-- Equality of numbers: whole numbers and doubles are different, doubles compare numerically. -/
def Number.equal : Number → Number → Bool
  | whole m, whole n => m == n
  | real x, real y => x == y
  | _, _ => false

mutual

/-- Equality of values, doubles compared numerically. -/
def equal : Json → Json → Bool
  | null, null => true
  | bool p, bool q => p == q
  | number m, number n => m.equal n
  | string s, string t => s == t
  | array xs, array ys => equalItems xs ys
  | object xs, object ys => equalMembers xs ys
  | _, _ => false

/-- Equality of values, one by one. -/
def equalItems : List Json → List Json → Bool
  | [], [] => true
  | x :: xs, y :: ys => equal x y && equalItems xs ys
  | _, _ => false

/-- Equality of members, one by one. -/
def equalMembers : List (String × Json) → List (String × Json) → Bool
  | [], [] => true
  | (k, x) :: xs, (l, y) :: ys => k == l && equal x y && equalMembers xs ys
  | _, _ => false

end

instance : BEq Json := ⟨equal⟩

/-- Ordered members with `key` set to `value`; an earlier value of the key is replaced. -/
def Members.insert (key : String) (value : Json) : Members → Members
  | [] => [(key, value)]
  | (k, v) :: rest =>
    if key < k then (key, value) :: (k, v) :: rest
    else if key == k then (key, value) :: rest
    else (k, v) :: Members.insert key value rest

/-- The ordered members of a list of pairs; of equal keys the last one counts. -/
def Members.ofList (pairs : List (String × Json)) : Members :=
  pairs.foldl (fun members (key, value) => Members.insert key value members) []

mutual

/-- The value with the members of every object in increasing order of their keys. -/
def sorted : Json → Json
  | array items => array (sortedItems items)
  | object members => object (Members.ofList (sortedMembers members))
  | value => value

/-- Several values, each with its objects put in order. -/
def sortedItems : List Json → List Json
  | [] => []
  | item :: rest => sorted item :: sortedItems rest

/-- Several members, each value with its objects put in order. -/
def sortedMembers : List (String × Json) → List (String × Json)
  | [] => []
  | (key, value) :: rest => (key, sorted value) :: sortedMembers rest

end

/-- The value of a key. -/
def Members.get? (members : Members) (key : String) : Option Json := members.lookup key

/-- The member of an object; other values have none. -/
def member? (key : String) : Json → Option Json
  | object members => Members.get? members key
  | _ => none

/-- The text of a string value. -/
def text? : Json → Option String
  | string s => some s
  | _ => none

/-- The double nearest to a number value. -/
def float? : Json → Option Float
  | number n => some n.toFloat
  | _ => none

/-- The items of an array. -/
def items? : Json → Option (List Json)
  | array items => some items
  | _ => none

/-- A double as a value. -/
def ofFloat (x : Float) : Json := number (.real x)

/-- A whole number as a value. -/
def ofInt (n : Int) : Json := number (.whole n)

end Json

end AreaOfInterest
