import AreaOfInterest.Text.Hexadecimal

/-!
# Percent encoding

Bytes that may not stand for themselves are written as a percent sign and two hexadecimal digits. Texts are
encoded byte by byte in UTF-8.
-/

namespace AreaOfInterest.Percent

/-- The bytes of a text in UTF-8. -/
def bytes (s : String) : List UInt8 := s.toUTF8.toList

/-- A byte as it is written when `keep` holds for it, else encoded. -/
def byteText (keep : UInt8 → Bool) (b : UInt8) : List Char :=
  if keep b then [Char.ofNat b.toNat] else '%' :: Hexadecimal.byte b

/-- A text with every byte encoded that `keep` does not hold for. -/
def encode (keep : UInt8 → Bool) (s : String) : List Char := (bytes s).flatMap (byteText keep)

/-- The byte that two hexadecimal digits spell. -/
def byte? (high low : UInt8) : Option UInt8 := do
  let high ← Hexadecimal.digit? (Char.ofNat high.toNat)
  let low ← Hexadecimal.digit? (Char.ofNat low.toNat)
  return UInt8.ofNat (high * 16 + low)

/-- The bytes of a text whose percent signs with two digits stand for the byte that they encode. -/
def decode : List UInt8 → List UInt8
  | b :: h :: l :: rest =>
    match if b = 0x25 then byte? h l else none with
    | some encoded => encoded :: decode rest
    | none => b :: decode (h :: l :: rest)
  | b :: rest => b :: decode rest
  | [] => []

/-- Printable ASCII without the given characters. -/
def asciiWithout (excluded : String) (b : UInt8) : Bool :=
  0x20 ≤ b && b ≤ 0x7E && !excluded.toList.contains (Char.ofNat b.toNat)

/-- The bytes that stand for themselves in the path of an address. -/
def keepInPath : UInt8 → Bool := asciiWithout " \"#<>?`\x7b\x7d"

/-- The bytes that stand for themselves in the query of an address. -/
def keepInQuery : UInt8 → Bool := asciiWithout " \"#<>'"

/-- The bytes that stand for themselves in a form: letters, digits and four marks. -/
def keepInForm (b : UInt8) : Bool := (Char.ofNat b.toNat).isAlphanum || "*-._".toList.contains (Char.ofNat b.toNat)

/-- A name or value of a form: like `encode`, but with a plus sign for a space. -/
def encodeForm (s : String) : List Char :=
  (bytes s).flatMap fun b => if b = 0x20 then ['+'] else byteText keepInForm b

/-- Names and values as one query text. -/
def form (pairs : List (String × String)) : String :=
  String.intercalate "&" (pairs.map fun (name, value) => String.ofList (encodeForm name ++ '=' :: encodeForm value))

end AreaOfInterest.Percent
