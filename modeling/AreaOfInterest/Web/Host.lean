import AreaOfInterest.Decimal.Numeral
import AreaOfInterest.Web.Domain
import AreaOfInterest.Web.Percent

/-!
# Hosts

The host of an address in its one canonical text: names in lower-case ASCII, numeric hosts as four decimal bytes, and
bracketed ones as eight groups with the longest run of zeros left out.
-/

namespace AreaOfInterest.Host

open AreaOfInterest.Text

/-! ### Four bytes -/

/-- The number of a part of a numeric host: decimal, octal after a zero, or hexadecimal after `0x`. -/
def partNumber? (part : List Char) : Option Nat :=
  let read (base : Nat) (cs : List Char) : Option Nat :=
    (cs.mapM fun c => (Hexadecimal.digit? c).filter (· < base)).map (Numeral.ofDigits base)
  match part with
  | [] => none
  | '0' :: 'x' :: rest | '0' :: 'X' :: rest => read 16 rest
  | '0' :: c :: rest => read 8 (c :: rest)
  | _ => read 10 part

/-- The parts of a host name between dots; a dot at the end does not count. -/
def labels (name : List Char) : List (List Char) :=
  let parts := splitAll (· = '.') name
  if parts.length > 1 && parts.getLast? == some [] then parts.dropLast else parts

/-- Whether a host name is meant as a number: its last part is one. -/
def isNumeric (name : List Char) : Bool :=
  match (labels name).getLast? with
  | none => false
  | some part => (!part.isEmpty && part.all Char.isDigit) || (partNumber? part).isSome

/-- A numeric host as four bytes. The last part fills all bytes that the others leave. -/
def fourBytes? (name : List Char) : Option (List Nat) := do
  let numbers ← (labels name).mapM partNumber?
  let last ← numbers.getLast?
  let front := numbers.dropLast
  if numbers.length > 4 || front.any (· > 255) || last ≥ Nat.pow 256 (4 - front.length) then none
  else
    return front ++ (List.range (4 - front.length)).map fun i => last / Nat.pow 256 (3 - front.length - i) % 256

/-- Four bytes as text. -/
def fourText (parts : List Nat) : String := String.intercalate "." (parts.map toString)

/-! ### Eight groups -/

/-- A group of up to four hexadecimal digits. -/
def group? (cs : List Char) : Option Nat :=
  if cs.isEmpty || cs.length > 4 then none else (cs.mapM Hexadecimal.digit?).map Hexadecimal.ofDigits

/-- Four decimal bytes without leading zeros, as two groups. -/
def embeddedBytes? (cs : List Char) : Option (List Nat) := do
  let parts ← (splitAll (· = '.') cs).mapM fun part =>
    if part.isEmpty || !part.all Char.isDigit || (part.length > 1 && part.head? == some '0') then none
    else some (Numeral.ofDigits 10 (part.map Numeral.digit))
  match parts with
  | [a, b, c, d] => if parts.all (· ≤ 255) then some [a * 256 + b, c * 256 + d] else none
  | _ => none

/-- The groups between colons; the last place may hold four decimal bytes. -/
def groups? (cs : List Char) : Option (List Nat) :=
  if cs.isEmpty then some []
  else
    let parts := splitAll (· = ':') cs
    match parts.getLast? with
    | some last =>
      if last.contains '.' then do
        let front ← parts.dropLast.mapM group?
        return front ++ (← embeddedBytes? last)
      else parts.mapM group?
    | none => none

/-- The text before and after the first double colon. -/
def splitDoubleColon : List Char → Option (List Char × List Char)
  | [] => none
  | ':' :: ':' :: rest => some ([], rest)
  | c :: rest => (splitDoubleColon rest).map fun (before, after) => (c :: before, after)

/-- The eight groups of a bracketed host; a double colon stands for at least one group of zeros. -/
def eightGroups? (cs : List Char) : Option (List Nat) := do
  match splitDoubleColon cs with
  | none =>
    let groups ← groups? cs
    if groups.length = 8 then some groups else none
  | some (before, after) =>
    if before.contains '.' then none
    else
      let front ← groups? before
      let back ← groups? after
      if front.length + back.length ≤ 7 then
        some (front ++ List.replicate (8 - front.length - back.length) 0 ++ back)
      else none

/-- Start and length of the first longest run of zeros. -/
def longestZeros (groups : List Nat) : Nat × Nat :=
  ((List.range groups.length).map fun i => (i, ((groups.drop i).takeWhile (· = 0)).length)).foldl
    (fun best run => if run.2 > best.2 then run else best) (0, 0)

/-- Eight groups as text in brackets. -/
def eightText (groups : List Nat) : String :=
  let text (gs : List Nat) : String := String.intercalate ":" (gs.map fun g => String.ofList (Hexadecimal.lower g))
  let (start, count) := longestZeros groups
  let body := if count < 2 then text groups else text (groups.take start) ++ "::" ++ text (groups.drop (start + count))
  "[" ++ body ++ "]"

/-! ### Names -/

/-- Whether a character may not stand in a host name. -/
def isForbidden (c : Char) : Bool := c.toNat ≤ 0x20 || c.toNat = 0x7F || "\"#/:<>?@[\\]^`|%\x7b\x7d".toList.contains c

/-- The canonical text of a host. -/
def parse? (cs : List Char) : Option String :=
  match cs with
  | '[' :: rest =>
    if rest.getLast? = some ']' then (eightGroups? rest.dropLast).map eightText else none
  | _ => do
    let decoded ← String.fromUTF8? ⟨(Percent.decode (Percent.bytes (String.ofList cs))).toArray⟩
    let name ← Domain.toAscii? decoded.toList
    if name.isEmpty || name.any isForbidden then none
    else if isNumeric name then (fourBytes? name).map fourText
    else some (String.ofList name)

end AreaOfInterest.Host
