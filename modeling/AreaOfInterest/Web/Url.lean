import AreaOfInterest.Text.Blank
import AreaOfInterest.Web.Host

/-!
# Web addresses

Addresses with the schemes `http` and `https`, read leniently and kept in canonical form: blanks around the text and
line ends within it do not count, any slashes may follow the scheme, a user name is left out, so is the service number
that the scheme has anyway, dot segments are resolved, and what may not stand in a path or a query is
percent-encoded. The fragment is dropped.
-/

namespace AreaOfInterest

/-- A web address. -/
structure Url where
  isSecure : Bool
  host : String
  /-- The number of the service at the host, unless it is the usual one of the scheme. -/
  service : Option Nat
  /-- The path, which begins with a slash. -/
  path : String
  query : Option String
  deriving DecidableEq, Repr

namespace Url

/-- Whether a character separates the parts of a path. -/
def isSlash (c : Char) : Bool := c = '/' || c = '\\'

/-- Whether a character ends the host part. -/
def endsHost (c : Char) : Bool := isSlash c || c = '?' || c = '#'

/-- The text as it counts: without control characters and spaces at its ends, and without tabs and line ends. -/
def clean (text : String) : List Char :=
  (Text.strip (fun c => c.toNat ≤ 0x20) text.toList).filter fun c => !(c = '\t' || c = '\n' || c = '\r')

/-- Splits off the scheme: whether it is the secure one, and what follows its colon. -/
def splitScheme? (cs : List Char) : Option (Bool × List Char) :=
  let name := cs.takeWhile (· ≠ ':')
  match cs.drop name.length, String.ofList (name.map Char.toLower) with
  | _ :: rest, "http" => some (false, rest)
  | _ :: rest, "https" => some (true, rest)
  | _, _ => none

/-- The text after the last at sign, the whole text when there is none. -/
def withoutUser (cs : List Char) : List Char := (cs.reverse.takeWhile (· ≠ '@')).reverse

/-- Splits host and service number at the first colon outside brackets. -/
def splitService (inBrackets : Bool) : List Char → List Char × Option (List Char)
  | [] => ([], none)
  | c :: rest =>
    if c = ':' && !inBrackets then ([], some rest)
    else
      let (host, service) := splitService (if c = '[' then true else if c = ']' then false else inBrackets) rest
      (c :: host, service)

/-- The service number that some digits spell; none stands for the usual one of the scheme. -/
def service? (isSecure : Bool) (digits : List Char) : Option (Option Nat) :=
  if !digits.all Char.isDigit then none
  else
    let n := Numeral.ofDigits 10 (digits.map Numeral.digit)
    if n > 65535 then none
    else some (if digits.isEmpty || n = (if isSecure then 443 else 80) then none else some n)

/-- The segments of a path with each dot written out. -/
def plainDots (segment : List Char) : List Char :=
  match segment with
  | '%' :: '2' :: 'e' :: rest | '%' :: '2' :: 'E' :: rest => '.' :: plainDots rest
  | c :: rest => c :: plainDots rest
  | [] => []

/-- The segments of a path after one more of them; `done` holds the earlier ones, last one first. -/
def resolve (done : List String) : List (List Char) → List String
  | [] => done.reverse
  | segment :: rest =>
    let directory : List String := if rest.isEmpty then [""] else []
    if plainDots segment = ['.'] then resolve (directory ++ done) rest
    else if plainDots segment = ['.', '.'] then resolve (directory ++ done.drop 1) rest
    else resolve (String.ofList (Percent.encode Percent.keepInPath (String.ofList segment)) :: done) rest

/-- The canonical form of a path. -/
def pathText (cs : List Char) : String :=
  match cs with
  | [] => "/"
  | _ :: rest => "/" ++ String.intercalate "/" (resolve [] (Text.splitAll isSlash rest))

/-- Reads an address. -/
def parse? (text : String) : Option Url := do
  let (isSecure, rest) ← splitScheme? (clean text)
  let rest := rest.dropWhile isSlash
  let authority := rest.takeWhile (!endsHost ·)
  let rest := rest.drop authority.length
  let (host, digits) := splitService false (withoutUser authority)
  let service ← service? isSecure (digits.getD [])
  let path := rest.takeWhile fun c => !(c = '?' || c = '#')
  let query := match rest.drop path.length with
    | '?' :: rest =>
      some (String.ofList (Percent.encode Percent.keepInQuery (String.ofList (rest.takeWhile (· ≠ '#')))))
    | _ => none
  return ⟨isSecure, ← Host.parse? host, service, pathText path, query⟩

/-- The address with names and values added to its query. -/
def withForm (url : Url) (pairs : List (String × String)) : Url :=
  let added := Percent.form pairs
  match url.query with
  | none | some "" => { url with query := some added }
  | some query => { url with query := some (query ++ "&" ++ added) }

/-- Path and query. -/
def target (url : Url) : String :=
  match url.query with
  | none => url.path
  | some query => url.path ++ "?" ++ query

/-- The whole address. -/
def text (url : Url) : String :=
  let scheme := if url.isSecure then "https://" else "http://"
  let service := match url.service with
    | none => ""
    | some n => ":" ++ toString n
  scheme ++ url.host ++ service ++ url.target

end Url

end AreaOfInterest
