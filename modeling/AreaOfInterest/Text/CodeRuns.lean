import AreaOfInterest.Text.Hexadecimal

/-!
# Runs of character codes

A property of characters is kept as the runs of codes that have it. They are written as a text of hexadecimal
numbers, which is much shorter than a list.
-/

namespace AreaOfInterest.Text

/-- Splits a list at every element that a test holds for. -/
def splitAll {β : Type} (isSeparator : β → Bool) : List β → List (List β)
  | [] => [[]]
  | b :: rest =>
    match splitAll isSeparator rest with
    | [] => [[b]]
    | part :: parts => if isSeparator b then [] :: part :: parts else (b :: part) :: parts

/-- The parts of a text between spaces and line ends. -/
def words (text : String) : List (List Char) :=
  (splitAll (fun c => c = ' ' || c = '\n') text.toList).filter (!·.isEmpty)

/-- The code that hexadecimal digits spell. -/
def code (digits : List Char) : Nat := Hexadecimal.ofDigits (digits.filterMap Hexadecimal.digit?)

/-- A run of codes from its text: `41` is a single code and `41-5A` a run with both ends. -/
def codeRun? (word : List Char) : Option (Nat × Nat) :=
  match splitAll (· = '-') word with
  | [one] => some (code one, code one)
  | [first, last] => some (code first, code last)
  | _ => none

/-- Runs of codes, both ends included. -/
abbrev CodeRuns := List (Nat × Nat)

namespace CodeRuns

/-- The runs of a text, with spaces or line ends between them. -/
def ofText (text : String) : CodeRuns := (words text).filterMap codeRun?

/-- Whether a character's code lies in one of the runs. -/
def contains (runs : CodeRuns) (c : Char) : Bool := runs.any fun (first, last) => first ≤ c.toNat && c.toNat ≤ last

end CodeRuns

end AreaOfInterest.Text
