/-!
# Punycode

Labels of host names in ASCII. The ASCII characters of a label come first; the others follow in ascending order, each
as the distance from the one before, in a variable-length number to base 36 whose digit limits adapt to the distances
seen so far.
-/

namespace AreaOfInterest.Punycode

/-- The digit of a value below 36. -/
def digit (d : Nat) : Char := if d < 26 then Char.ofNat ('a'.toNat + d) else Char.ofNat ('0'.toNat + d - 26)

/-- The value of a digit in lower case. -/
def digitValue? (c : Char) : Option Nat :=
  if 'a' ≤ c ∧ c ≤ 'z' then some (c.toNat - 'a'.toNat)
  else if '0' ≤ c ∧ c ≤ '9' then some (c.toNat - '0'.toNat + 26)
  else none

/-- A digit's value is read back from it. -/
theorem digitValue?_digit {d : Nat} (h : d < 36) : digitValue? (digit d) = some d := by
  have all : ∀ e ∈ List.range 36, digitValue? (digit e) = some e := by decide
  exact all d (List.mem_range.mpr h)

/-- The limit of the digit at a position. -/
def limit (position bias : Nat) : Nat :=
  if position ≤ bias then 1 else if position ≥ bias + 26 then 26 else position - bias

theorem one_le_limit (position bias : Nat) : 1 ≤ limit position bias := by
  unfold limit
  split
  · exact Nat.le_refl 1
  · split <;> omega

/-- The digits of a distance. -/
def digits (bias position distance : Nat) : List Char :=
  let t := limit position bias
  if distance < t then [digit distance]
  else digit (t + (distance - t) % (36 - t)) :: digits bias (position + 36) ((distance - t) / (36 - t))
termination_by distance
decreasing_by
  have := one_le_limit position bias
  exact Nat.lt_of_le_of_lt (Nat.div_le_self _ _) (by omega)

/-- Scales a distance down until its digits fit, counting the positions. -/
def settle (distance position : Nat) : Nat × Nat :=
  if distance > 455 then settle (distance / 35) (position + 36) else (distance, position)
termination_by distance

/-- The bias after a distance, the `count`th one of its label. -/
def adapt (distance count : Nat) (isFirst : Bool) : Nat :=
  let distance := if isFirst then distance / 700 else distance / 2
  let (rest, position) := settle (distance + distance / count) 0
  position + 36 * rest / (rest + 38)

/-- The state of an encoder: what is written, the distance since then, the bias, and how many characters are done. -/
structure Encoder where
  output : List Char
  distance : Nat
  bias : Nat
  done : Nat

/-- Passes one character of the label while the characters with a given code are written. -/
def Encoder.pass (basic code : Nat) (e : Encoder) (c : Char) : Encoder :=
  if c.toNat < code then { e with distance := e.distance + 1 }
  else if c.toNat = code then
    { output := e.output ++ digits e.bias 36 e.distance
      distance := 0
      bias := adapt e.distance (e.done + 1) (e.done == basic)
      done := e.done + 1 }
  else e

/-- Writes the characters of the given codes, which ascend from `start`. -/
def encodeFrom (label : List Char) (basic : Nat) : Nat → List Nat → Encoder → Encoder
  | _, [], e => e
  | start, code :: codes, e =>
    let e := { e with distance := e.distance + (code - start) * (e.done + 1) }
    let e := label.foldl (Encoder.pass basic code) e
    encodeFrom label basic (code + 1) codes { e with distance := e.distance + 1 }

/-- The ASCII form of a label. -/
def encode (label : List Char) : List Char :=
  let basic := label.filter (·.toNat < 128)
  let codes := (((label.map Char.toNat).filter (128 ≤ ·)).mergeSort (· ≤ ·)).eraseReps
  let e := encodeFrom label basic.length 128 codes ⟨[], 0, 72, basic.length⟩
  basic ++ (if basic.isEmpty then [] else ['-']) ++ e.output

/-- The state of a decoder: the characters so far, the code and the place of the next one, and the number that is
being read with the weight and the position of its next digit. -/
structure Decoder where
  output : List Char
  code : Nat
  place : Nat
  bias : Nat
  distance : Nat
  weight : Nat
  position : Nat

/-- Reads one digit. The last one of a number puts a character into the output. -/
def Decoder.read? (d : Decoder) (c : Char) : Option Decoder := do
  let value ← digitValue? c
  let distance := d.distance + value * d.weight
  let t := limit d.position d.bias
  if t ≤ value then
    return { d with distance := distance, weight := d.weight * (36 - t), position := d.position + 36 }
  else
    let count := d.output.length + 1
    let code := d.code + (d.place + distance) / count
    let place := (d.place + distance) % count
    if _ : code.isValidChar then
      return {
        output := d.output.take place ++ Char.ofNat code :: d.output.drop place
        code, place := place + 1, bias := adapt distance count (d.place == 0)
        distance := 0, weight := 1, position := 36 }
    else none

/-- The label of an ASCII form. The last hyphen ends its ASCII characters, unless the form begins with it. -/
def decode? (form : List Char) : Option (List Char) := do
  let digits := (form.reverse.takeWhile (· ≠ '-')).reverse
  let basic := form.take (form.length - digits.length - 1)
  let digits := if basic.isEmpty then form else digits
  let d ← digits.foldlM Decoder.read? ⟨basic, 128, 0, 72, 0, 1, 36⟩
  if d.position = 36 then some d.output else none

end AreaOfInterest.Punycode
