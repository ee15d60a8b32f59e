import AreaOfInterest.GeoJson.Model
import AreaOfInterest.Text.Blank

/-!
# Found places

A search hit: the feature that was found and the names by which it is labelled. Of the features of a search
reply the first one that has a geometry is the hit. Its properties are replaced by its name and those of
country, province and region that are known, because labels are made of these alone.
-/

namespace AreaOfInterest

/-- A place that a search found. -/
structure Place (α : Type) where
  name : String
  country : Option String
  province : Option String
  region : Option String
  feature : Feature α

/-- The parts of an address, as far as they are given. -/
structure Address where
  country : Option String := none
  state : Option String := none
  province : Option String := none
  region : Option String := none
  county : Option String := none
  deriving DecidableEq, Repr

/-- What the properties of a hit say about a place. -/
structure PlaceLabels where
  name : Option String := none
  displayName : Option String := none
  address : Address := {}
  deriving DecidableEq, Repr

/-- A text that may be missing or null. -/
def Json.textOrNull? : Option Json → Option (Option String)
  | none | some .null => some none
  | some (.string s) => some (some s)
  | _ => none

/-- The address of an object, or of an array of its parts in order. -/
def Address.ofJson? : Json → Option Address
  | .object members => do
    let text? (key : String) := Json.textOrNull? (Json.Members.get? members key)
    return ⟨← text? "country", ← text? "state", ← text? "province", ← text? "region", ← text? "county"⟩
  | .array [country, state, province, region, county] => do
    let text? (value : Json) := Json.textOrNull? (some value)
    return ⟨← text? country, ← text? state, ← text? province, ← text? region, ← text? county⟩
  | _ => none

namespace PlaceLabels

/-- The labels that properties give, unless one of them has the wrong type. -/
def ofProperties? (properties : Json.Members) : Option PlaceLabels := do
  let text? (key : String) := Json.textOrNull? (properties.get? key)
  let address ← match properties.get? "address" with
    | none => some {}
    | some value => Address.ofJson? value
  return ⟨← text? "name", ← text? "display_name", address⟩

/-- A text unless it is empty. -/
def nonEmpty? (text : Option String) : Option String := text.filter (· ≠ "")

/-- The first part of a name that goes on after commas, without blanks around it. -/
def firstPart (name : String) : String := Text.trim (String.ofList (name.toList.takeWhile (· ≠ ',')))

/-- The name to go by: the given one, else the first part of the name for display, else the empty one. -/
def title (labels : PlaceLabels) : String :=
  (nonEmpty? labels.name).getD ((labels.displayName.map firstPart).getD "")

/-- The province: the state where there is one. -/
def province? (labels : PlaceLabels) : Option String :=
  (nonEmpty? labels.address.state).or (nonEmpty? labels.address.province)

/-- The region: the county where there is no other. -/
def region? (labels : PlaceLabels) : Option String :=
  (nonEmpty? labels.address.region).or (nonEmpty? labels.address.county)

/-- The properties of a place with these labels. -/
def toProperties (labels : PlaceLabels) : Json.Members :=
  let known (key : String) (text : Option String) := (text.map fun t => (key, Json.string t)).toList
  Json.Members.ofList
    (("name", .string labels.title) :: known "country" (nonEmpty? labels.address.country) ++
      known "province" labels.province? ++ known "region" labels.region?)

end PlaceLabels

namespace Place

variable {α : Type}

/-- A place labelled by its feature's properties. -/
def ofFeature (feature : Feature α) : Place α :=
  { name := (feature.text? "name").getD ""
    country := feature.text? "country"
    province := feature.text? "province"
    region := feature.text? "region"
    feature }

/-- Country, province and region, as far as they are known. -/
def description (p : Place α) : String :=
  String.intercalate ", " ([p.country, p.province, p.region].filterMap id)

/-- The place of a hit. Properties that do not fit the labels count as missing, all of them. -/
def ofHit (feature : Feature α) : Place α :=
  let labels := (feature.properties.bind PlaceLabels.ofProperties?).getD {}
  ofFeature { feature with properties := some labels.toProperties }

/-- The first feature that has a geometry, as a place. -/
def first? (reply : FeatureCollection α) : Option (Place α) :=
  (reply.features.find? (·.geometry.isSome)).map ofHit

end Place

end AreaOfInterest
