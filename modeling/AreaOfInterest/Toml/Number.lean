import AreaOfInterest.Decimal.Numeral
import AreaOfInterest.Toml.Text
import AreaOfInterest.Toml.Value

/-!
# TOML numbers and dates

Integers in four bases within 64 bits, floats that must not overflow, and dates and times whose parts must be
possible ones. Underscores may stand between digits.
-/

namespace AreaOfInterest.Toml

/-- Drops an underscore that stands in front of a digit. -/
def dropJoint (digit? : Char → Option Nat) : List Char → List Char
  | '_' :: c :: rest => if (digit? c).isSome then c :: rest else '_' :: c :: rest
  | cs => cs

theorem length_dropJoint_le (digit? : Char → Option Nat) (cs : List Char) :
    (dropJoint digit? cs).length ≤ cs.length := by
  unfold dropJoint
  split
  · split <;> simp
  · simp

/-- The digits of a run in which single underscores may stand between digits, and what follows it. -/
def scanRun (digit? : Char → Option Nat) : List Char → List Nat × List Char
  | [] => ([], [])
  | c :: rest =>
    match digit? c with
    | none => ([], c :: rest)
    | some d =>
      let (ds, rest) := scanRun digit? (dropJoint digit? rest)
      (d :: ds, rest)
termination_by cs => cs.length
decreasing_by exact Nat.lt_succ_of_le (length_dropJoint_le digit? _)

/-- The value of a digit below `base`. -/
def digitBelow? (base : Nat) (c : Char) : Option Nat := (Hexadecimal.digit? c).filter (· < base)

/-- A run of at least one digit below `base`. -/
def scanDigits? (base : Nat) (cs : List Char) : Option (List Nat × List Char) :=
  match scanRun (digitBelow? base) cs with
  | ([], _) => none
  | run => some run

/-- The digits of a decimal whole number; a zero in front stands alone. -/
def scanWhole? (cs : List Char) : Option (List Nat × List Char) :=
  match cs with
  | '0' :: rest => some ([0], rest)
  | _ => scanDigits? 10 cs

/-- The exponent of a float after its letter. -/
def scanExponent? (cs : List Char) : Option (Int × List Char) :=
  let (negative, cs) := Numeral.splitSign cs
  (scanDigits? 10 cs).map fun (digits, rest) =>
    let size : Nat := Numeral.ofDigits 10 digits
    (if negative then -(size : Int) else size, rest)

/-- The part of a float after its whole digits: places, an exponent, or both. -/
def scanFraction? (whole : List Nat) (cs : List Char) : Option (Numeral × List Char) :=
  let withExponent (places : List Nat) (cs : List Char) : Option (Numeral × List Char) :=
    match cs with
    | 'e' :: rest | 'E' :: rest => (scanExponent? rest).map fun (power, rest) => (⟨whole, places, power⟩, rest)
    | _ => if places.isEmpty then none else some (⟨whole, places, 0⟩, cs)
  match cs with
  | '.' :: rest => (scanDigits? 10 rest).bind fun (places, rest) => withExponent places rest
  | _ => withExponent [] cs

/-- A float, when one starts here. -/
def scanFloat? (cs : List Char) : Option (Toml × List Char) :=
  let (negative, cs) := Numeral.splitSign cs
  match cs with
  | 'i' :: 'n' :: 'f' :: rest => some (.float (if negative then -1.0 / 0.0 else 1.0 / 0.0), rest)
  | 'n' :: 'a' :: 'n' :: rest => some (.float (0.0 / 0.0), rest)
  | _ => do
    let (whole, rest) ← scanWhole? cs
    let (numeral, rest) ← scanFraction? whole rest
    let x := numeral.toFloat negative
    if x.isFinite then some (.float x, rest) else none

/-- An integer, when one starts here. -/
def scanInteger? (cs : List Char) : Option (Toml × List Char) :=
  let unsigned (base : Nat) (cs : List Char) : Option (Toml × List Char) := do
    let (digits, rest) ← scanDigits? base cs
    let n := Numeral.ofDigits base digits
    if n < Nat.pow 2 63 then some (.integer n, rest) else none
  match cs with
  | '0' :: 'x' :: rest => unsigned 16 rest
  | '0' :: 'o' :: rest => unsigned 8 rest
  | '0' :: 'b' :: rest => unsigned 2 rest
  | _ => do
    let (negative, cs) := Numeral.splitSign cs
    let (digits, rest) ← scanWhole? cs
    let n := Numeral.ofDigits 10 digits
    if n < Nat.pow 2 63 ∨ (negative ∧ n = Nat.pow 2 63) then some (.integer (if negative then -(n : Int) else n), rest) else none

/-- The number of exactly `width` decimal digits. -/
def scanField? (width : Nat) (cs : List Char) : Option (Nat × List Char) :=
  let digits := cs.take width
  if digits.length = width ∧ digits.all Char.isDigit then some (Numeral.ofDigits 10 (digits.map Numeral.digit), cs.drop width)
  else none

/-- The text after a given character. -/
def skip? (expected : Char) : List Char → Option (List Char)
  | c :: rest => if c = expected then some rest else none
  | [] => none

/-- Number of days of a month. -/
def daysInMonth (year month : Nat) : Nat :=
  if month = 2 then if year % 4 = 0 ∧ (year % 100 ≠ 0 ∨ year % 400 = 0) then 29 else 28
  else if month = 4 ∨ month = 6 ∨ month = 9 ∨ month = 11 then 30
  else 31

/-- The text after a date. -/
def skipDate? (cs : List Char) : Option (List Char) := do
  let (year, rest) ← scanField? 4 cs
  let (month, rest) ← scanField? 2 (← skip? '-' rest)
  let (day, rest) ← scanField? 2 (← skip? '-' rest)
  if 1 ≤ month ∧ month ≤ 12 ∧ 1 ≤ day ∧ day ≤ daysInMonth year month then some rest else none

/-- The text after a time of day, with any number of places for the second. -/
def skipTime? (cs : List Char) : Option (List Char) := do
  let (hour, rest) ← scanField? 2 cs
  let (minute, rest) ← scanField? 2 (← skip? ':' rest)
  let (second, rest) ← scanField? 2 (← skip? ':' rest)
  if hour ≤ 23 ∧ minute ≤ 59 ∧ second ≤ 60 then
    match rest with
    | '.' :: places => some (if (places.takeWhile Char.isDigit).isEmpty then rest else places.dropWhile Char.isDigit)
    | _ => some rest
  else none

/-- The text after an offset from universal time. -/
def skipOffset? (cs : List Char) : Option (List Char) :=
  match cs with
  | 'Z' :: rest | 'z' :: rest => some rest
  | '+' :: rest | '-' :: rest => do
    let (hour, rest) ← scanField? 2 rest
    let (minute, rest) ← scanField? 2 (← skip? ':' rest)
    if hour ≤ 23 ∧ minute ≤ 59 then some rest else none
  | _ => none

/-- A date, a time or both, when one starts here. -/
def scanMoment? (cs : List Char) : Option (Toml × List Char) :=
  match skipDate? cs with
  | none => (skipTime? cs).map ((.moment, ·))
  | some rest =>
    let time? := match rest with
      | 'T' :: rest | 't' :: rest | ' ' :: rest => skipTime? rest
      | _ => none
    match time? with
    | none => some (.moment, rest)
    | some rest => some (.moment, (skipOffset? rest).getD rest)

/-- A date or a number, when one starts here. -/
def scanNumber? (cs : List Char) : Option (Toml × List Char) :=
  scanMoment? cs <|> scanFloat? cs <|> scanInteger? cs

end AreaOfInterest.Toml
