import AreaOfInterest.Text.Hexadecimal

/-!
# TOML strings

The four spellings of a string: with double quotes and escapes or with single quotes and none, each on one line
or over several lines between tripled quotes. A function here reads what follows the opening quotes and returns
the string with the rest of the text.
-/

namespace AreaOfInterest.Toml

/-- Whether a character may stand for itself in a string: everything but control characters other than tab. -/
def isPlain (c : Char) : Bool := c = '\t' || (c.toNat ≥ 0x20 && c.toNat ≠ 0x7F)

/-- Whether a character is a blank within a line. -/
def isBlank (c : Char) : Bool := c = ' ' || c = '\t'

/-- The text after a line end, when there is one in front. -/
def lineEnd? : List Char → Option (List Char)
  | '\n' :: rest => some rest
  | '\r' :: '\n' :: rest => some rest
  | _ => none

/-- The character with the code that some hexadecimal digits spell. -/
def scanCode (width : Nat) (cs : List Char) : Option (Char × List Char) := do
  let digits ← (cs.take width).mapM Hexadecimal.digit?
  let code := Hexadecimal.ofDigits digits
  if digits.length = width ∧ code.isValidChar then some (Char.ofNat code, cs.drop width) else none

/-- The character that an escape stands for, read after its backslash. -/
def scanEscape : List Char → Option (Char × List Char)
  | 'b' :: rest => some ('\x08', rest)
  | 't' :: rest => some ('\t', rest)
  | 'n' :: rest => some ('\n', rest)
  | 'f' :: rest => some ('\x0c', rest)
  | 'r' :: rest => some ('\r', rest)
  | '"' :: rest => some ('"', rest)
  | '\\' :: rest => some ('\\', rest)
  | 'u' :: rest => scanCode 4 rest
  | 'U' :: rest => scanCode 8 rest
  | _ => none

/-- A string with escapes on one line. `read` holds its characters so far, last one first. -/
def scanBasic (fuel : Nat) (read : List Char) (cs : List Char) : Option (String × List Char) :=
  match fuel, cs with
  | 0, _ | _, [] => none
  | fuel + 1, c :: rest =>
    if c = '"' then some (String.ofList read.reverse, rest)
    else if c = '\\' then (scanEscape rest).bind fun (e, rest) => scanBasic fuel (e :: read) rest
    else if isPlain c then scanBasic fuel (c :: read) rest
    else none

/-- A string without escapes on one line. -/
def scanLiteral (cs : List Char) : Option (String × List Char) :=
  let body := cs.takeWhile fun c => c ≠ '\'' && isPlain c
  match cs.drop body.length with
  | '\'' :: rest => some (String.ofList body, rest)
  | _ => none

/-- Drops blanks and line ends. -/
def skipBlankLines (fuel : Nat) (cs : List Char) : List Char :=
  match fuel with
  | 0 => cs
  | fuel + 1 =>
    match cs with
    | c :: rest => if isBlank c then skipBlankLines fuel rest else ((lineEnd? cs).map (skipBlankLines fuel)).getD cs
    | [] => []

/-- The end of a line within a string, when a backslash in front of it joins the lines. -/
def joinLines? (cs : List Char) : Option (List Char) :=
  (lineEnd? (cs.dropWhile isBlank)).map fun rest => skipBlankLines rest.length rest

/-- A string over several lines between tripled `quote`s. Up to two more quotes may stand right before the closing
ones. -/
def scanLines (quote : Char) (escapes : Bool) (fuel : Nat) (read : List Char) (cs : List Char) :
    Option (String × List Char) :=
  match fuel, cs with
  | 0, _ | _, [] => none
  | fuel + 1, c :: rest =>
    if c = quote then
      let run := (cs.takeWhile (· = quote)).length
      if run < 3 then scanLines quote escapes fuel (List.replicate run quote ++ read) (cs.drop run)
      else if run ≤ 5 then some (String.ofList (List.replicate (run - 3) quote ++ read).reverse, cs.drop run)
      else none
    else if escapes && c = '\\' then
      match joinLines? rest with
      | some rest => scanLines quote escapes fuel read rest
      | none => (scanEscape rest).bind fun (e, rest) => scanLines quote escapes fuel (e :: read) rest
    else
      match lineEnd? cs with
      | some rest => scanLines quote escapes fuel ('\n' :: read) rest
      | none => if isPlain c then scanLines quote escapes fuel (c :: read) rest else none

/-- A string over several lines, read after its opening quotes; a line end right there does not count. -/
def scanMultiline (quote : Char) (escapes : Bool) (cs : List Char) : Option (String × List Char) :=
  let cs := (lineEnd? cs).getD cs
  scanLines quote escapes (cs.length + 1) [] cs

/-- A string on one line, when one starts here. -/
def scanLineString? : List Char → Option (String × List Char)
  | '"' :: rest => scanBasic (rest.length + 1) [] rest
  | '\'' :: rest => scanLiteral rest
  | _ => none

/-- A string of any of the four spellings, when one starts here. -/
def scanString? : List Char → Option (String × List Char)
  | '"' :: '"' :: '"' :: rest => scanMultiline '"' true rest
  | '\'' :: '\'' :: '\'' :: rest => scanMultiline '\'' false rest
  | cs => scanLineString? cs

end AreaOfInterest.Toml
