import AreaOfInterest.Web.Domain.Direction
import AreaOfInterest.Web.Domain.Joining
import AreaOfInterest.Web.Domain.Mapping
import AreaOfInterest.Web.Punycode

/-!
# Domain names

Names of hosts may have letters of all scripts. For the network they are spelled in ASCII: each label with other
characters is written in Punycode behind `xn--`. A name may come in either spelling, and both are held to the
same rules.
-/

namespace AreaOfInterest.Domain

open AreaOfInterest.Text

/-- What begins a label in Punycode. -/
def marker : List Char := ['x', 'n', '-', '-']

/-- Whether all characters are ASCII. -/
def isAscii (label : List Char) : Bool := label.all (·.toNat < 128)

/-- The longest label that is written in Punycode, and half the length of the longest that is read. -/
def longestLabel : Nat := 1000

/-- The label that an ASCII form in Punycode stands for. It has to be one that is written so. -/
def labelOfForm? (form : List Char) : Option (List Char) :=
  if form.length > 2 * longestLabel then none
  else
    (Punycode.decode? form).filter fun label =>
      !isAscii label && !marker.isPrefixOf label && label.all isPlain && compose label == label

/-- The characters of a label, which may be given in Punycode. -/
def label? (label : List Char) : Option (List Char) :=
  if marker.isPrefixOf label then labelOfForm? (label.drop marker.length) else some label

/-- Whether a label's marks and joiners stand where they may. -/
def isWellFormed (label : List Char) : Bool := !label.head?.any isMark && joinersFit [] label

/-- A label in ASCII. -/
def labelText? (label : List Char) : Option (List Char) :=
  if isAscii label then some label
  else if label.length > longestLabel then none
  else some (marker ++ Punycode.encode label)

/-- A domain name in ASCII; none for one that cannot be used. -/
def toAscii? (name : List Char) : Option (List Char) := do
  let labels ← (splitAll (· = '.') (← map? name)).mapM label?
  if labels.all isWellFormed && allKeepDirection labels then
    return ['.'].intercalate (← labels.mapM labelText?)
  else none

end AreaOfInterest.Domain
