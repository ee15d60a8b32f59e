import AreaOfInterest.Json.Lexer

/-!
# Reading JSON

The grammar over tokens. A text is one value of fewer than 128 nested arrays and objects. A failure
tells a text that ends too early from one that goes wrong, judged at the first place where it stops
being the beginning of a JSON text. Members are read as they are written; `parse` puts them in order
and lets the last one of a key count.

A reader that knows which members it wants passes over the others. They have to be JSON as well, but
nesting, large numbers and broken surrogate pairs do no harm there.
-/

namespace AreaOfInterest.Json

/-- The part of a value that is wanted. The known members of an object may also come as an array in their order. -/
inductive Interest where
  | whole
  | items (each : Interest)
  | members (known : List (String × Interest))

/-- The part wanted of the item of an array at an index. -/
def Interest.item (interest : Interest) (index : Nat) : Interest :=
  match interest with
  | whole => whole
  | items each => each
  | members known => (known[index]?.map (·.2)).getD whole

/-- The part wanted of the member of an object with a key; none if the member is passed over. -/
def Interest.member? (interest : Interest) (key : String) : Option Interest :=
  match interest with
  | members known => known.lookup key
  | _ => some whole

/-- What a value stands in. -/
inductive Enclosure where
  | array | object

/-- Whether a token has the form of a string. -/
def Token.isString : Token → Bool
  | scalar (.string _) | valueless .string _ => true
  | _ => false

mutual

/-- Passes over a value, given the arrays and objects around it that belong to what is passed over. -/
def skipValue (enclosing : List Enclosure) : List Token → Option (List Token)
  | .scalar _ :: rest | .valueless _ _ :: rest => skipRest enclosing rest
  | .openBracket :: .closeBracket :: rest | .openBrace :: .closeBrace :: rest => skipRest enclosing rest
  | .openBracket :: rest => skipValue (.array :: enclosing) rest
  | .openBrace :: key :: .colon :: rest => if key.isString then skipValue (.object :: enclosing) rest else none
  | _ => none

/-- Passes over what follows a value up to the end of the outermost array or object around it. -/
def skipRest (enclosing : List Enclosure) (tokens : List Token) : Option (List Token) :=
  match enclosing, tokens with
  | [], rest => some rest
  | .array :: _, .comma :: rest => skipValue enclosing rest
  | .object :: _, .comma :: key :: .colon :: rest => if key.isString then skipValue enclosing rest else none
  | .array :: outer, .closeBracket :: rest | .object :: outer, .closeBrace :: rest => skipRest outer rest
  | _, _ => none

end

/-- The fault where punctuation is needed and `rest` stands instead. -/
def faultAtPunctuation (rest : List Token) : TextFault :=
  match rest with
  | [] => .endOfText
  | _ => .malformed

mutual

/-- Reads the wanted part of one value that may hold fewer than `depth` nested values. -/
def readValue (fuel depth : Nat) (interest : Interest) (tokens : List Token) :
    Except TextFault (Json × List Token) :=
  match fuel, tokens with
  | 0, _ => .error .malformed
  | _, [] => .error .endOfText
  | _, .scalar value :: rest => .ok (value, rest)
  | _, .valueless _ cause :: _ | _, .fault _ cause :: _ => .error cause
  | fuel + 1, .openBracket :: rest =>
    if depth ≤ 1 then .error .malformed
    else
      match rest with
      | .closeBracket :: rest => .ok (.array [], rest)
      | _ => readItems fuel (depth - 1) interest [] rest
  | fuel + 1, .openBrace :: rest =>
    if depth ≤ 1 then .error .malformed
    else
      match rest with
      | .closeBrace :: rest => .ok (.object [], rest)
      | _ => readMembers fuel (depth - 1) interest [] rest
  | _, _ => .error .malformed

/-- Reads the remaining items of an array; `read` holds the earlier ones, last one first. -/
def readItems (fuel depth : Nat) (interest : Interest) (read : List Json) (tokens : List Token) :
    Except TextFault (Json × List Token) :=
  match fuel with
  | 0 => .error .malformed
  | fuel + 1 =>
    match readValue fuel depth (interest.item read.length) tokens with
    | .error fault => .error fault
    | .ok (value, .comma :: rest) => readItems fuel depth interest (value :: read) rest
    | .ok (value, .closeBracket :: rest) => .ok (.array (value :: read).reverse, rest)
    | .ok (_, rest) => .error (faultAtPunctuation rest)

/-- Reads the wanted ones of the remaining members of an object; `read` holds the earlier ones, last one first. -/
def readMembers (fuel depth : Nat) (interest : Interest) (read : List (String × Json)) (tokens : List Token) :
    Except TextFault (Json × List Token) :=
  match fuel, tokens with
  | 0, _ => .error .malformed
  | fuel + 1, .scalar (.string key) :: .colon :: rest =>
    let member : Except TextFault (List (String × Json) × List Token) :=
      match interest.member? key with
      | none =>
        match skipValue [] rest with
        | none => .error .malformed
        | some rest => .ok (read, rest)
      | some part =>
        match readValue fuel depth part rest with
        | .error fault => .error fault
        | .ok (value, rest) => .ok ((key, value) :: read, rest)
    match member with
    | .error fault => .error fault
    | .ok (read, .comma :: rest) => readMembers fuel depth interest read rest
    | .ok (read, .closeBrace :: rest) => .ok (.object read.reverse, rest)
    | .ok (_, rest) => .error (faultAtPunctuation rest)
  | _, .scalar (.string _) :: rest => .error (faultAtPunctuation rest)
  | _, .valueless .string cause :: _ | _, .fault .string cause :: _ => .error cause
  | _, rest => .error (faultAtPunctuation rest)

end

/-- Reads the wanted part of a JSON text, with the members of its objects as they are written. -/
def parseMembers (interest : Interest) (text : String) : Except TextFault Json :=
  let tokens := tokens text
  match readValue (2 * tokens.length + 2) 128 interest tokens with
  | .error fault => .error fault
  | .ok (value, []) => .ok value
  | .ok (_, _ :: _) => .error .malformed

/-- Reads a JSON text, with the members of its objects in order. -/
def parse (text : String) : Except TextFault Json := (parseMembers .whole text).map sorted

end AreaOfInterest.Json
