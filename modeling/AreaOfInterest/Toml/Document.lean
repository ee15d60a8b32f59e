import AreaOfInterest.Toml.Number
import AreaOfInterest.Toml.Table

/-!
# TOML documents

A document is a sequence of lines: a key with its value, the header of a table, or the header of one more table
of an array. Lines may be empty and may end in a comment. Only the text of arrays and of long strings goes on over
several lines. Arrays and tables within a line are nested less than 80 deep, and a key has less than 80 parts.
-/

namespace AreaOfInterest.Toml

/-- Drops blanks within a line. -/
def skipBlanks (cs : List Char) : List Char := cs.dropWhile isBlank

/-- Drops the comment that starts here, up to the end of its line. -/
def skipComment (cs : List Char) : List Char :=
  match cs with
  | '#' :: rest => rest.dropWhile isPlain
  | _ => cs

/-- The text of the next line, when the current one holds nothing more than a comment. -/
def endOfLine? (cs : List Char) : Option (List Char) :=
  match skipComment (skipBlanks cs) with
  | [] => some []
  | rest => lineEnd? rest

/-- Drops blanks, comments and line ends between the items of an array. -/
def skipGap (fuel : Nat) (cs : List Char) : List Char :=
  match fuel with
  | 0 => cs
  | fuel + 1 =>
    match lineEnd? (skipComment (skipBlanks cs)) with
    | some rest => skipGap fuel rest
    | none => skipBlanks cs

/-- Whether a character may stand in a key without quotes. -/
def isBare (c : Char) : Bool := c.isAlphanum || c = '_' || c = '-'

/-- One part of a key. -/
def scanPart? (cs : List Char) : Option (String × List Char) :=
  match scanLineString? cs with
  | some part => some part
  | none =>
    let bare := cs.takeWhile isBare
    if bare.isEmpty then none else some (String.ofList bare, cs.drop bare.length)

/-- The bound on the depth of values within a line and on the parts of a key. -/
def nestingLimit : Nat := 80

/-- The parts of a key between dots, with blanks around each. -/
def scanParts? (fuel : Nat) (cs : List Char) : Option (List String × List Char) :=
  match fuel with
  | 0 => none
  | fuel + 1 => do
    let (part, rest) ← scanPart? (skipBlanks cs)
    match skipBlanks rest with
    | '.' :: rest =>
      let (parts, rest) ← scanParts? fuel rest
      return (part :: parts, rest)
    | rest => return ([part], rest)

/-- A key, given as its parts. -/
def scanKey? (cs : List Char) : Option (List String × List Char) :=
  (scanParts? cs.length cs).filter (·.1.length < nestingLimit)

mutual

/-- A value that may hold values `depth` deep. -/
def scanValue? (fuel depth : Nat) (cs : List Char) : Option (Toml × List Char) :=
  match fuel, cs with
  | 0, _ | _, [] => none
  | fuel + 1, c :: rest =>
    match c with
    | '"' | '\'' => (scanString? cs).map fun (s, rest) => (.string s, rest)
    | '[' => if depth = 0 then none else scanItems? fuel (depth - 1) [] rest
    | '\x7b' =>
      if depth = 0 then none
      else
        match skipBlanks rest with
        | '\x7d' :: rest => some (.table [], rest)
        | rest => scanEntries? fuel (depth - 1) [] rest
    | 't' => match rest with
      | 'r' :: 'u' :: 'e' :: rest => some (.boolean true, rest)
      | _ => none
    | 'f' => match rest with
      | 'a' :: 'l' :: 's' :: 'e' :: rest => some (.boolean false, rest)
      | _ => none
    | _ => scanNumber? cs

/-- The remaining items of an array; `read` holds the earlier ones, last one first. -/
def scanItems? (fuel depth : Nat) (read : List Toml) (cs : List Char) : Option (Toml × List Char) :=
  match fuel with
  | 0 => none
  | fuel + 1 =>
    match skipGap cs.length cs with
    | ']' :: rest => some (.array read.reverse, rest)
    | cs => do
      let (item, rest) ← scanValue? fuel depth cs
      match skipGap rest.length rest with
      | ',' :: rest => scanItems? fuel depth (item :: read) rest
      | ']' :: rest => some (.array (item :: read).reverse, rest)
      | _ => none

/-- The remaining entries of a table on one line. -/
def scanEntries? (fuel depth : Nat) (entries : Entries) (cs : List Char) : Option (Toml × List Char) :=
  match fuel with
  | 0 => none
  | fuel + 1 => do
    let (key, rest) ← scanKey? cs
    let (value, rest) ← scanValue? fuel depth (skipBlanks (← skip? '=' rest))
    let entries ← entries.assign value key
    match skipBlanks rest with
    | ',' :: rest => scanEntries? fuel depth entries rest
    | '\x7d' :: rest => some (.table (finishedEntries entries), rest)
    | _ => none

end

/-- A line that says something. -/
inductive Line where
  | entry (key : List String) (value : Toml)
  | table (path : List String)
  | item (path : List String)

/-- The line that starts here with something other than a blank, and the text of the next one. -/
def scanLine? (cs : List Char) : Option (Line × List Char) :=
  match cs with
  | '[' :: '[' :: rest => do
    let (path, rest) ← scanKey? rest
    return (.item path, ← endOfLine? (← skip? ']' (← skip? ']' rest)))
  | '[' :: rest => do
    let (path, rest) ← scanKey? rest
    return (.table path, ← endOfLine? (← skip? ']' rest))
  | _ => do
    let (key, rest) ← scanKey? cs
    let rest := skipBlanks (← skip? '=' rest)
    let (value, rest) ← scanValue? (rest.length + 1) (nestingLimit - 1) rest
    return (.entry key value, ← endOfLine? rest)

/-- The lines of a text; `fuel` bounds their number. -/
def scanLines? (fuel : Nat) (cs : List Char) : Option (List Line) :=
  match fuel, cs with
  | _, [] => some []
  | 0, _ => none
  | fuel + 1, cs =>
    match endOfLine? cs with
    | some rest => scanLines? fuel rest
    | none => do
      let (line, rest) ← scanLine? (skipBlanks cs)
      return line :: (← scanLines? fuel rest)

/-- A document under construction: its tables and the path of the table that lines go to. -/
structure Draft where
  root : Entries
  here : List String

/-- The document after one more line. -/
def Draft.add? (d : Draft) : Line → Option Draft
  | .entry key value => (d.root.alterAt (Entries.assign value key) d.here).map ({ d with root := · })
  | .table path => (d.root.openTable path).map (⟨·, path⟩)
  | .item path => (d.root.openItem path).map (⟨·, path⟩)

/-- Reads a document. A byte order mark in front does not count. -/
def parse? (text : String) : Option Toml := do
  let cs := match text.toList with
    | '\uFEFF' :: rest => rest
    | cs => cs
  let lines ← scanLines? (cs.length + 1) cs
  let draft ← lines.foldlM Draft.add? ⟨[], []⟩
  return .table (finishedEntries draft.root)

end AreaOfInterest.Toml
