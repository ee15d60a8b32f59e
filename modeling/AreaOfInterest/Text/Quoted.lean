import AreaOfInterest.Text.Hexadecimal
import AreaOfInterest.Text.Printable

/-!
# Quoted texts for messages

A text in double quotes that shows every character: what has no mark of its own, or would join on to the character
before it, is written as an escape with its code. File paths escape single quotes as well.
-/

namespace AreaOfInterest.Text

/-- The escape for a character's code. -/
def codeEscape (c : Char) : List Char := ['\\', 'u', '\x7b'] ++ Hexadecimal.lower c.toNat ++ ['\x7d']

/-- How a character is shown inside quotes. -/
def shown (c : Char) : List Char :=
  match c with
  | '\x00' => ['\\', '0']
  | '\t' => ['\\', 't']
  | '\n' => ['\\', 'n']
  | '\r' => ['\\', 'r']
  | '"' => ['\\', '"']
  | '\\' => ['\\', '\\']
  | _ => if isExtender c || !isPrintable c then codeEscape c else [c]

/-- A text in quotes. -/
def quoted (s : String) : String := String.ofList ('"' :: s.toList.flatMap shown ++ ['"'])

/-- A file path in quotes. -/
def quotedPath (s : String) : String :=
  String.ofList ('"' :: s.toList.flatMap (fun c => if c = '\'' then ['\\', '\''] else shown c) ++ ['"'])

end AreaOfInterest.Text
