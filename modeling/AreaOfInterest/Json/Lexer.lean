import AreaOfInterest.Json.Value
import AreaOfInterest.Text.Hexadecimal

/-!
# JSON tokens

A text is cut into punctuation, literals, numbers and strings, blanks skipped. The first place where
that fails ends the token list with a fault, which remembers how it began: whether it matters depends
on what the grammar admits at that place. Numbers too large for a double and strings with half a
surrogate pair have the form of JSON but no value; who does not need the value may pass over them.
-/

namespace AreaOfInterest.Json

/-- Why a text is not JSON. -/
inductive TextFault where
  /-- The text ends where more is needed. -/
  | endOfText
  /-- Anything else. -/
  | malformed
  deriving DecidableEq, Repr, Inhabited

/-- The piece of text that a fault interrupts. -/
inductive Opening where
  | string
  | other
  deriving DecidableEq, Repr

/-- A piece of JSON text. -/
inductive Token where
  | openBrace | closeBrace | openBracket | closeBracket | colon | comma
  | scalar (value : Json)
  /-- A string or number of the right form that stands for nothing. -/
  | valueless (opening : Opening) (cause : TextFault)
  | fault (opening : Opening) (cause : TextFault)

/-- A piece of text together with what follows it, or the fault that interrupts it. -/
abbrev Scanned (β : Type) := Except TextFault (β × List Char)

/-- The value of four hexadecimal digits. A text that ends within the next four bytes is cut off. -/
def scanHex (cs : List Char) : Scanned Nat :=
  if (cs.take 4).foldl (fun size c => size + c.utf8Size) 0 < 4 then .error .endOfText
  else
    match (cs.take 4).mapM Hexadecimal.digit? with
    | some digits => .ok (Hexadecimal.ofDigits digits, cs.drop 4)
    | none => .error .malformed

/-- The lower half of a surrogate pair, written as an escape of its own. -/
def scanLowSurrogate : List Char → Scanned Nat
  | [] => .error .endOfText
  | ['\\'] => .error .endOfText
  | '\\' :: 'u' :: rest =>
    match scanHex rest with
    | .error fault => .error fault
    | .ok (low, rest) => if 0xDC00 ≤ low ∧ low ≤ 0xDFFF then .ok (low - 0xDC00, rest) else .error .malformed
  | _ => .error .malformed

/-- The character that an escape stands for, read after its backslash. Surrogates come in pairs only. -/
def scanEscape : List Char → Scanned Char
  | [] => .error .endOfText
  | 'u' :: rest =>
    match scanHex rest with
    | .error fault => .error fault
    | .ok (unit, rest) =>
      if 0xDC00 ≤ unit ∧ unit ≤ 0xDFFF then .error .malformed
      else if 0xD800 ≤ unit ∧ unit ≤ 0xDBFF then
        match scanLowSurrogate rest with
        | .error fault => .error fault
        | .ok (low, rest) => .ok (Char.ofNat (0x10000 + (unit - 0xD800) * 0x400 + low), rest)
      else .ok (Char.ofNat unit, rest)
  | c :: rest =>
    match c with
    | '"' => .ok ('"', rest)
    | '\\' => .ok ('\\', rest)
    | '/' => .ok ('/', rest)
    | 'b' => .ok ('\x08', rest)
    | 'f' => .ok ('\x0c', rest)
    | 'n' => .ok ('\n', rest)
    | 'r' => .ok ('\r', rest)
    | 't' => .ok ('\t', rest)
    | _ => .error .malformed

/-- The rest of a string after its opening quote; `read` holds its characters so far, last one first. -/
def scanString (fuel : Nat) (read : List Char) (cs : List Char) : Scanned String :=
  match fuel, cs with
  | 0, _ => .error .endOfText
  | _, [] => .error .endOfText
  | fuel + 1, c :: rest =>
    if c = '"' then .ok (String.ofList read.reverse, rest)
    else if c = '\\' then
      match scanEscape rest with
      | .error fault => .error fault
      | .ok (e, rest) => scanString fuel (e :: read) rest
    else if c.toNat < 0x20 then .error .malformed
    else scanString fuel (c :: read) rest

/-- The text after a string, given what follows its opening quote. Its escapes need not stand for characters. -/
def skipString : List Char → Option (List Char)
  | '"' :: rest => some rest
  | '\\' :: 'u' :: a :: b :: c :: d :: rest =>
    if [a, b, c, d].all (Hexadecimal.digit? · |>.isSome) then skipString rest else none
  | '\\' :: c :: rest => if c ∈ ['"', '\\', '/', 'b', 'f', 'n', 'r', 't'] then skipString rest else none
  | c :: rest => if c.toNat < 0x20 then none else skipString rest
  | [] => none

/-- The digits of a number so far: their value as long as it has 64 bits, how many were left out or stand
after the point, as an exponent, and whether a digit was left out already. -/
structure Significand where
  value : Nat
  exponent : Int
  full : Bool

/-- Takes one more digit before the point. -/
def Significand.pushWhole (s : Significand) (digit : Nat) : Significand :=
  let value := s.value * 10 + digit
  if s.full || value ≥ Nat.pow 2 64 then { s with exponent := s.exponent + 1, full := true } else { s with value := value }

/-- Takes one more digit after the point. -/
def Significand.pushPlace (s : Significand) (digit : Nat) : Significand :=
  let value := s.value * 10 + digit
  if s.full || value ≥ Nat.pow 2 64 then { s with full := true } else { s with value := value, exponent := s.exponent - 1 }

/-- Divides by `10³⁰⁸` until the exponent is within the table of powers; `fuel` bounds the steps. -/
def scaleDown (fuel : Nat) (x : Float) (exponent : Int) : Float :=
  match fuel with
  | 0 => x
  | fuel + 1 =>
    if exponent ≥ -308 then x / Float.ofScientific 1 false exponent.natAbs
    else if x == 0.0 then x
    else scaleDown fuel (x / Float.ofScientific 1 false 308) (exponent + 308)

/-- The double of a significand: scaled by one power of ten in double arithmetic. Numbers that overflow are
refused. -/
def Significand.toFloat? (s : Significand) : Option Float :=
  let x := Float.ofNat s.value
  if s.exponent < 0 then some (scaleDown 4 x s.exponent)
  else if s.exponent > 308 then (if x == 0.0 then some x else none)
  else
    let y := x * Float.ofScientific 1 false s.exponent.natAbs
    if y.isFinite then some y else none

/-- Splits off the leading decimal digits. -/
def spanDigits (cs : List Char) : List Nat × List Char :=
  ((cs.takeWhile Char.isDigit).map (·.toNat - '0'.toNat), cs.dropWhile Char.isDigit)

/-- The exponent after its letter. An exponent beyond 32 bits counts as that many. -/
def scanExponent (cs : List Char) : Scanned Int :=
  let (negative, cs) := match cs with
    | '+' :: rest => (false, rest)
    | '-' :: rest => (true, rest)
    | _ => (false, cs)
  match spanDigits cs with
  | ([], []) => .error .endOfText
  | ([], _) => .error .malformed
  | (digits, rest) =>
    let size : Nat := digits.foldl (fun n d => min (n * 10 + d) (Nat.pow 2 31)) 0
    .ok (if negative then -(size : Int) else size, rest)

/-- The number of a significand, with the exponent that may follow it; none for one that overflows. -/
def scanScaled (negative : Bool) (s : Significand) (cs : List Char) : Scanned (Option Number) :=
  let finish (s : Significand) (rest : List Char) : Scanned (Option Number) :=
    .ok (s.toFloat?.map fun x => .real (if negative then -x else x), rest)
  match cs with
  | 'e' :: rest | 'E' :: rest =>
    match scanExponent rest with
    | .error fault => .error fault
    | .ok (power, rest) => finish { s with exponent := s.exponent + power } rest
  | _ => finish s cs

/-- The number after its sign; none for one that overflows. A whole number of at most 64 bits stays whole, except
the negative zero. -/
def scanUnsigned (negative : Bool) (cs : List Char) : Scanned (Option Number) :=
  match spanDigits cs with
  | ([], []) => .error .endOfText
  | ([], _) => .error .malformed
  | (0 :: _ :: _, _) => .error .malformed
  | (digits, rest) =>
    let s := digits.foldl Significand.pushWhole ⟨0, 0, false⟩
    match rest with
    | '.' :: rest =>
      match spanDigits rest with
      | ([], []) => .error .endOfText
      | ([], _) => .error .malformed
      | (places, rest) => scanScaled negative (places.foldl Significand.pushPlace { s with full := false }) rest
    | 'e' :: _ | 'E' :: _ => scanScaled negative s rest
    | _ =>
      if s.full then scanScaled negative s rest
      else if !negative then .ok (some (.whole s.value), rest)
      else if s.value = 0 ∨ s.value > Nat.pow 2 63 then .ok (some (.real (-Float.ofNat s.value)), rest)
      else .ok (some (.whole (-(s.value : Int))), rest)

/-- The text after a literal's first character, when it goes on as `expected`. -/
def scanLiteral (expected : List Char) (cs : List Char) : Except TextFault (List Char) :=
  match expected, cs with
  | [], rest => .ok rest
  | _ :: _, [] => .error .endOfText
  | e :: expected, c :: rest => if c = e then scanLiteral expected rest else .error .malformed

/-- Whether a character is a blank of JSON. -/
def isBlank (c : Char) : Bool := c = ' ' ∨ c = '\n' ∨ c = '\t' ∨ c = '\r'

/-- The token that begins with `c`, and what follows it; a fault has nothing after it. -/
def scanToken (c : Char) (rest : List Char) : Token × List Char :=
  let literal (expected : String) (value : Json) : Token × List Char :=
    match scanLiteral expected.toList rest with
    | .ok rest => (.scalar value, rest)
    | .error cause => (.fault .other cause, [])
  let numeral (scanned : Scanned (Option Number)) : Token × List Char :=
    match scanned with
    | .ok (some n, rest) => (.scalar (.number n), rest)
    | .ok (none, rest) => (.valueless .other .malformed, rest)
    | .error cause => (.fault .other cause, [])
  match c with
  | '\x7b' => (.openBrace, rest)
  | '\x7d' => (.closeBrace, rest)
  | '[' => (.openBracket, rest)
  | ']' => (.closeBracket, rest)
  | ':' => (.colon, rest)
  | ',' => (.comma, rest)
  | 'n' => literal "ull" .null
  | 't' => literal "rue" (.bool true)
  | 'f' => literal "alse" (.bool false)
  | '"' =>
    match scanString (rest.length + 1) [] rest with
    | .ok (s, rest) => (.scalar (.string s), rest)
    | .error cause =>
      match skipString rest with
      | some rest => (.valueless .string cause, rest)
      | none => (.fault .string cause, [])
  | '-' => numeral (scanUnsigned true rest)
  | _ => if c.isDigit then numeral (scanUnsigned false (c :: rest)) else (.fault .other .malformed, [])

/-- The tokens of a text; `fuel` bounds their number. -/
def scan (fuel : Nat) (cs : List Char) : List Token :=
  match fuel, cs with
  | 0, _ => []
  | _, [] => []
  | fuel + 1, c :: rest =>
    if isBlank c then scan fuel rest
    else
      let (token, rest) := scanToken c rest
      token :: scan fuel rest

/-- The tokens of a text. -/
def tokens (text : String) : List Token := scan text.length text.toList

end AreaOfInterest.Json
