import AreaOfInterest.Proofs.PlaceLabels

/-!
# Places that are found

The hit of a reply is the earliest feature that has a geometry. It becomes a place: its own properties are dropped for
those that labels are made of, and the place is named by what these say. Rewriting and reading back agree, so a place
has exactly the labels that stand in its feature.

Nothing is lost of properties that fit. But of properties in which one known member does not fit nothing is kept, not
even the name.
-/

namespace AreaOfInterest

open Json PlaceLabels

variable {α : Type}

/-- The earliest feature that has a geometry. -/
def FeatureCollection.IsHit (c : FeatureCollection α) (hit : Feature α) : Prop :=
  ∃ before after, c.features = before ++ hit :: after ∧ hit.geometry.isSome ∧ ∀ f ∈ before, f.geometry = none

/-- The first feature with a geometry is the hit. -/
theorem FeatureCollection.find?_eq_some_iff {c : FeatureCollection α} {hit : Feature α} :
    c.features.find? (·.geometry.isSome) = some hit ↔ c.IsHit hit := by
  rw [List.find?_eq_some_iff_append, IsHit]
  simp only [Bool.not_eq_true', Option.isSome_eq_false_iff, Option.isNone_iff_eq_none]
  constructor
  · rintro ⟨hgeometry, before, after, hfeatures, hbefore⟩
    exact ⟨before, after, hfeatures, hgeometry, hbefore⟩
  · rintro ⟨before, after, hfeatures, hgeometry, hbefore⟩
    exact ⟨hgeometry, before, after, hfeatures, hbefore⟩

namespace Place

/-- The properties of a place: its name, and what is known of country, province and region. -/
def properties (place : Place α) : Members :=
  member "country" place.country ++ ("name", .string place.name) ::
    (member "province" place.province ++ member "region" place.region)

/-- The place is named after properties, each part by the first member that can be used for it. -/
structure IsNamedBy (place : Place α) (properties : Members) : Prop where
  name : place.name = (usable? (properties.get? "name")).getD
    ((((properties.get? "display_name").bind text?).map firstPart).getD "")
  country : place.country = (usableAddress properties).country
  province : place.province = (usableAddress properties).state.or (usableAddress properties).province
  region : place.region = (usableAddress properties).region.or (usableAddress properties).county

/-- Nothing is known of the place but where it is. -/
structure IsNameless (place : Place α) : Prop where
  name : place.name = ""
  country : place.country = none
  province : place.province = none
  region : place.region = none

/-- What a place says of its hit: all that the properties of the hit say when these fit, and nothing otherwise. -/
structure Describes (place : Place α) (hit : Feature α) : Prop where
  feature : place.feature = { hit with properties := some place.properties }
  country_ne : place.country ≠ some ""
  province_ne : place.province ≠ some ""
  region_ne : place.region ≠ some ""
  named : ∀ properties ∈ hit.properties, PlaceLabels.Fits properties → place.IsNamedBy properties
  nameless : (∀ properties ∈ hit.properties, ¬ PlaceLabels.Fits properties) → place.IsNameless
  description : place.description =
    ", ".intercalate (["country", "province", "region"].filterMap place.feature.text?)

/-- The place with given labels, which are also the properties of its feature. -/
def labelled (hit : Feature α) (labels : PlaceLabels) : Place α :=
  { name := labels.title
    country := nonEmpty? labels.address.country
    province := labels.province?
    region := labels.region?
    feature := { hit with properties := some labels.toProperties } }

/-- The texts that are read back are the ones that were written. -/
theorem ofFeature_toProperties (hit : Feature α) (labels : PlaceLabels) :
    ofFeature { hit with properties := some labels.toProperties } = labelled hit labels := by
  obtain ⟨hname, hcountry, hprovince, hregion⟩ := labels.get?_toProperties
  have hread (text : Option String) : ((text.map Json.string).bind text?).filter (· ≠ "") = nonEmpty? text := by
    cases text <;> rfl
  have htitle : ((some labels.title).filter (· ≠ "")).getD "" = labels.title := by
    by_cases h : labels.title = "" <;> simp [Option.filter, h]
  simp only [ofFeature, labelled, Feature.text?, Option.bind_some, hname, hcountry, hprovince, hregion, hread, text?,
    htitle, nonEmpty?_eq_self_iff.mpr (nonEmpty?_ne _), nonEmpty?_eq_self_iff.mpr (province?_ne labels),
    nonEmpty?_eq_self_iff.mpr (region?_ne labels)]

/-- The properties of a place are those of its feature. -/
theorem properties_labelled (hit : Feature α) (labels : PlaceLabels) :
    (labelled hit labels).properties = labels.toProperties := (toProperties_eq labels).symm

/-- The description is made of the texts that the feature has under the three keys. -/
theorem description_ofFeature (feature : Feature α) : (ofFeature feature).description =
    ", ".intercalate (["country", "province", "region"].filterMap feature.text?) :=
  congrArg (", ").intercalate
    (List.filterMap_map (l := ["country", "province", "region"]) (f := feature.text?) (g := id))

/-- The place of a hit says what the properties of the hit say. -/
theorem describes_ofHit (hit : Feature α) : (ofHit hit).Describes hit := by
  have hplace : ofHit hit = labelled hit ((hit.properties.bind ofProperties?).getD {}) := ofFeature_toProperties hit _
  constructor
  case feature => rw [hplace, properties_labelled, labelled]
  case country_ne => rw [hplace]; exact nonEmpty?_ne _
  case province_ne => rw [hplace]; exact province?_ne _
  case region_ne => rw [hplace]; exact region?_ne _
  case named =>
    intro properties given fits
    obtain ⟨labels, hlabels⟩ := Option.isSome_iff_exists.mp (isSome_ofProperties?_iff.mpr fits)
    obtain ⟨hname, haddress⟩ := usable_of_ofProperties? hlabels
    obtain ⟨-, -, hdisplay, -⟩ := ofProperties?_eq_some_iff.mp hlabels
    rw [hplace, given, Option.bind_some, hlabels, Option.getD_some]
    constructor
    case name => rw [labelled, title, hname, hdisplay]
    case country => rw [← haddress]; rfl
    case province => rw [← haddress]; rfl
    case region => rw [← haddress]; rfl
  case nameless =>
    intro unfit
    have hlabels : hit.properties.bind ofProperties? = none := by
      refine Option.bind_eq_none_iff.mpr fun properties given => ?_
      exact Option.not_isSome_iff_eq_none.mp (mt isSome_ofProperties?_iff.mp (unfit properties given))
    rw [hplace, hlabels]
    exact ⟨rfl, rfl, rfl, rfl⟩
  case description => exact description_ofFeature _

/-- What a place says of its hit leaves nothing open. -/
theorem Describes.eq_ofHit {place : Place α} {hit : Feature α} (h : place.Describes hit) : place = ofHit hit := by
  have h' := describes_ofHit hit
  have hlabels : place.name = (ofHit hit).name ∧ place.country = (ofHit hit).country ∧
      place.province = (ofHit hit).province ∧ place.region = (ofHit hit).region := by
    by_cases fits : ∃ properties ∈ hit.properties, PlaceLabels.Fits properties
    · obtain ⟨properties, given, fits⟩ := fits
      have hnamed := h.named properties given fits
      have hnamed' := h'.named properties given fits
      exact ⟨hnamed.name.trans hnamed'.name.symm, hnamed.country.trans hnamed'.country.symm,
        hnamed.province.trans hnamed'.province.symm, hnamed.region.trans hnamed'.region.symm⟩
    · have unfit : ∀ properties ∈ hit.properties, ¬ PlaceLabels.Fits properties := by simpa using fits
      have hnone := h.nameless unfit
      have hnone' := h'.nameless unfit
      exact ⟨hnone.name.trans hnone'.name.symm, hnone.country.trans hnone'.country.symm,
        hnone.province.trans hnone'.province.symm, hnone.region.trans hnone'.region.symm⟩
  obtain ⟨hname, hcountry, hprovince, hregion⟩ := hlabels
  have hfeature : place.feature = (ofHit hit).feature := by
    rw [h.feature, h'.feature, properties, properties, hname, hcountry, hprovince, hregion]
  calc place = ⟨place.name, place.country, place.province, place.region, place.feature⟩ := rfl
    _ = ofHit hit := by rw [hname, hcountry, hprovince, hregion, hfeature]

/-- A place describes a hit when it is the one of the hit. -/
theorem describes_iff {place : Place α} {hit : Feature α} : place.Describes hit ↔ place = ofHit hit :=
  ⟨Describes.eq_ofHit, fun h => h ▸ describes_ofHit hit⟩

/-- What is found is the place of the hit. -/
theorem first?_eq_some_iff {c : FeatureCollection α} {place : Place α} :
    first? c = some place ↔ ∃ hit, c.IsHit hit ∧ place = ofHit hit := by
  simp only [first?, Option.map_eq_some_iff, FeatureCollection.find?_eq_some_iff, @eq_comm _ place]

/-- A search finds nothing exactly when no feature of the reply has a geometry. What it finds is the earliest one that
has, as it was received but for its properties. These are the name and whichever of country, province and region is
known. They are what the place says of itself, and of the properties that were received they are what can be used, if
these fit. -/
theorem first?_eq_iff_describes (c : FeatureCollection α) :
    (first? c = none ↔ ∀ f ∈ c.features, f.geometry = none) ∧
      ∀ place, first? c = some place ↔ ∃ hit, c.IsHit hit ∧ place.Describes hit := by
  refine ⟨by simp [first?], fun place => ?_⟩
  simp only [first?_eq_some_iff, describes_iff]

example : (first? (.single (⟨none, none, some (.point [1, 2]), some
    [("address", .object [("country", .string "United States"), ("county", .string "Boulder County"),
      ("state", .string "Colorado")]), ("name", .string "Boulder")]⟩ : Feature Float))).map description =
    some "United States, Colorado, Boulder County" := by decide

/-- The place has what its hit says by its name and its address, each member taken by itself. -/
structure Keeps (place : Place α) (properties : Members) : Prop where
  name : ∀ s ∈ usable? (properties.get? "name"), place.name = s
  country : ∀ s ∈ (usableAddress properties).country, place.country = some s
  province : ∀ s ∈ (usableAddress properties).state.or (usableAddress properties).province, place.province = some s
  region : ∀ s ∈ (usableAddress properties).region.or (usableAddress properties).county, place.region = some s

/-- A place that is named after properties has what they say. -/
theorem IsNamedBy.keeps {place : Place α} {properties : Members} (h : place.IsNamedBy properties) :
    place.Keeps properties where
  name s hs := by rw [h.name, hs, Option.getD_some]
  country s hs := h.country.trans hs
  province s hs := h.province.trans hs
  region s hs := h.region.trans hs

/-- A place without a name has lost the one that was given. -/
theorem IsNameless.not_keeps {place : Place α} {properties : Members} {name : String} (h : place.IsNameless)
    (named : usable? (properties.get? "name") = some name) : ¬ place.Keeps properties := by
  intro keeps
  have hempty : name = "" := (keeps.name name named).symm.trans h.name
  rw [hempty, usable?, Option.filter_eq_some_iff] at named
  simp at named

/-- A hit whose properties do not fit has no name. -/
theorem isNameless_ofHit {hit : Feature α} {properties : Members} (given : hit.properties = some properties)
    (unfit : ¬ PlaceLabels.Fits properties) : (ofHit hit).IsNameless := by
  refine (describes_ofHit hit).nameless fun properties' given' => ?_
  obtain rfl := Option.some.inj (given.symm.trans given')
  exact unfit

/-- A hit that has a name keeps all that its properties say exactly when these fit altogether. When they do not, nothing
is kept of them. -/
theorem first?_keeps_iff {c : FeatureCollection α} {hit : Feature α} {properties : Members} {name : String}
    (found : c.IsHit hit) (given : hit.properties = some properties)
    (named : usable? (properties.get? "name") = some name) :
    ∃ place, first? c = some place ∧ (place.Keeps properties ↔ PlaceLabels.Fits properties) ∧
      (¬ PlaceLabels.Fits properties → place.IsNameless) := by
  refine ⟨ofHit hit, first?_eq_some_iff.mpr ⟨hit, found, rfl⟩, ⟨fun keeps => ?_, fun fits => ?_⟩,
    isNameless_ofHit given⟩
  · by_contra unfit
    exact (isNameless_ofHit given unfit).not_keeps named keeps
  · exact ((describes_ofHit hit).named properties given fits).keeps

/-- A point with given properties. -/
def pointWith (properties : Members) : Feature Float := ⟨none, none, some (.point [1, 2]), some properties⟩

/-- A point is the hit where there is nothing else. -/
theorem isHit_pointWith (properties : Members) :
    (FeatureCollection.single (pointWith properties)).IsHit (pointWith properties) := ⟨[], [], rfl, rfl, nofun⟩

/-- The properties of a place in an address that is complete. -/
def boulder : Members :=
  [("address", .object [("country", .string "United States"), ("county", .string "Boulder County"),
      ("state", .string "Colorado")]),
    ("name", .string "Boulder")]

/-- A place in an address that is complete has all of it. -/
theorem first?_keeps_boulder :
    usable? (boulder.get? "name") = some "Boulder" ∧ ∃ place,
      first? (.single (pointWith boulder)) = some place ∧ place.Keeps boulder := by
  have named : usable? (boulder.get? "name") = some "Boulder" := by decide
  obtain ⟨place, hplace, hkeeps, -⟩ := first?_keeps_iff (isHit_pointWith boulder) rfl named
  exact ⟨named, place, hplace, hkeeps.mpr (isSome_ofProperties?_iff.mp rfl)⟩

/-- The properties of a place of which the address is null. -/
def nullAddress : Members := [("address", .null), ("name", .string "Boulder")]

/-- The properties of a place in an address in which the county is a number. -/
def numberedCounty : Members :=
  [("address", .object [("country", .string "United States"), ("county", .number (.whole 7))]),
    ("name", .string "Boulder")]

/-- A name is lost with properties that give no labels. -/
theorem not_keeps_pointWith {properties : Members} {name : String}
    (named : usable? (properties.get? "name") = some name) (unfit : ofProperties? properties = none) :
    ¬∃ place, first? (.single (pointWith properties)) = some place ∧ place.Keeps properties := by
  rintro ⟨place, hplace, keeps⟩
  obtain rfl := Option.some.inj hplace
  have hunfit : ¬ PlaceLabels.Fits properties := by simp [← isSome_ofProperties?_iff, unfit]
  exact (isNameless_ofHit rfl hunfit).not_keeps named keeps

/-- The name is lost to an address that is null, and to a county that is a number, to which the country is lost too. -/
theorem not_first?_keeps_unfit :
    ((FeatureCollection.single (pointWith nullAddress)).IsHit (pointWith nullAddress) ∧
      usable? (nullAddress.get? "name") = some "Boulder" ∧
      ¬∃ place, first? (.single (pointWith nullAddress)) = some place ∧ place.Keeps nullAddress) ∧
    (FeatureCollection.single (pointWith numberedCounty)).IsHit (pointWith numberedCounty) ∧
      usable? (numberedCounty.get? "name") = some "Boulder" ∧
      ¬∃ place, first? (.single (pointWith numberedCounty)) = some place ∧ place.Keeps numberedCounty :=
  have named : usable? (nullAddress.get? "name") = some "Boulder" := by decide
  have named' : usable? (numberedCounty.get? "name") = some "Boulder" := by decide
  ⟨⟨isHit_pointWith _, named, not_keeps_pointWith named rfl⟩, isHit_pointWith _, named',
    not_keeps_pointWith named' rfl⟩

end Place

end AreaOfInterest
