import AreaOfInterest.Proofs.KeyOrder

/-!
# Foreign members

Besides the members that the format has, a feature may carry others. Reading passes them over, and they leave no trace:
a feature is read as it would be without them. Its properties are the ones that were given, with nothing added, so a
foreign member can only be found among them when its key was there before.
-/

namespace AreaOfInterest

open Json

namespace Feature

/-- The keys that the format has for a feature. -/
def knownKeys : List String := ["type", "id", "bbox", "geometry", "properties"]

/-- The properties that the members of a feature give, none for null or a missing member. -/
def givenProperties (members : Members) : Members :=
  ((Members.get? members "properties").bind membersOfJson?).getD []

/-- Each foreign member is among the properties, with its key and its value, unless they were given with the key. -/
def KeepsForeign (f : Feature Float) (members : Members) : Prop :=
  ∀ key value, (key, value) ∈ members → key ∉ knownKeys → key ∉ (givenProperties members).map (·.1) →
    Members.get? (f.properties.getD []) key = some value

variable {members : Members} {f : Feature Float}

/-- A known member has the same value when the foreign ones are taken out. -/
theorem valueOnce?_known (key : String) (known : key ∈ knownKeys) (members : Members) :
    valueOnce? key (members.filter (·.1 ∈ knownKeys)) = valueOnce? key members := by
  have hfound : (members.filter (·.1 ∈ knownKeys)).filter (·.1 = key) = members.filter (·.1 = key) := by
    rw [List.filter_filter]
    refine List.filter_congr fun m _ => ?_
    by_cases hkey : m.1 = key
    · simp [hkey, known]
    · simp [hkey]
  rw [valueOnce?, hfound, valueOnce?]

/-- A feature is read as it would be without its foreign members. -/
theorem ofJson?_known (members : Members) :
    ofJson? (.object (members.filter (·.1 ∈ knownKeys))) = ofJson? (.object members) := by
  have hid := valueOnce?_known "id" (by decide) members
  have hbbox := valueOnce?_known "bbox" (by decide) members
  have hgeometry := valueOnce?_known "geometry" (by decide) members
  have hproperties := valueOnce?_known "properties" (by decide) members
  simp only [ofJson?, hid, hbbox, hgeometry, hproperties]

/-- The properties are the ones that were given. -/
theorem properties_of_ofJson? (read : ofJson? (.object members) = some f) :
    f.properties.getD [] = givenProperties members := by
  obtain ⟨id, bbox, geometry, properties, -, -, -, hfound, hread⟩ := ofJson?_object_eq_some_iff.mp read
  obtain ⟨-, -, -, hproperties⟩ := ofValues?_eq_some_iff.mp hread
  have hnull (null : properties = .null) : f.properties = none := by
    rw [null] at hproperties
    exact (Option.some.inj hproperties).symm
  rw [givenProperties, Members.get?_eq_head?]
  obtain hvalues | ⟨hvalues, null⟩ := valueOnce?_eq_some_iff.mp hfound
  · rw [hvalues, List.head?_cons, Option.bind_some]
    by_cases null : properties = .null
    · rw [hnull null, null]
      rfl
    · rw [nullable_of_ne_null membersOfJson? null, Option.map_eq_some_iff] at hproperties
      obtain ⟨given, hgiven, hsome⟩ := hproperties
      rw [← hsome, hgiven]
  · rw [hnull null, hvalues]
    rfl

/-- Foreign members are kept only where there is nothing to keep: each has a key that the properties were given with. -/
theorem keepsForeign_iff (read : ofJson? (.object members) = some f) :
    f.KeepsForeign members ↔
      ∀ m ∈ members, m.1 ∈ knownKeys ∨ m.1 ∈ (givenProperties members).map (·.1) := by
  constructor
  · rintro hkeeps ⟨key, value⟩ hm
    by_contra hnew
    rw [not_or] at hnew
    have hget := hkeeps key value hm hnew.1 hnew.2
    have habsent : ∀ m ∈ givenProperties members, m.1 ≠ key := fun m hm heq =>
      hnew.2 (List.mem_map.mpr ⟨m, hm, heq⟩)
    rw [properties_of_ofJson? read, Members.get?_eq_head?, Members.values_eq_nil habsent] at hget
    cases hget
  · intro hgiven key value hm hforeign hnew
    exact absurd (hgiven _ hm) (not_or.mpr ⟨hforeign, hnew⟩)

end Feature

namespace Document

/-- The values that the features of a document are read from. -/
def featureValues (value : Json) : List Json :=
  match (value.member? "type").bind text? with
  | some "FeatureCollection" => ((value.member? "features").bind items?).getD []
  | some "Feature" => [value]
  | _ => []

/-- The features that a document was read with. A bare geometry has none. -/
def features : Document Float → List (Feature Float)
  | featureCollection c => c.features
  | feature f => [f]
  | geometry _ => []

/-- The features of a collection are read from its items one by one. -/
theorem forall₂_featureValues_collection {value : Json} {c : FeatureCollection Float}
    (typed : (value.member? "type").bind text? = some "FeatureCollection")
    (read : FeatureCollection.ofJson? value = some c) :
    List.Forall₂ (fun v f => Feature.ofJson? v = some f) (featureValues value) c.features := by
  cases value with
  | object members =>
    obtain ⟨bbox, found, -, hfound, hread⟩ := FeatureCollection.ofJson?_object_eq_some_iff.mp read
    obtain ⟨-, items, rfl, hitems⟩ := FeatureCollection.ofValues?_eq_some_iff.mp hread
    have hvalues : Members.values "features" members = [.array items] := by
      simpa using valueOnce?_eq_some_iff.mp hfound
    have hmember : (Json.object members).member? "features" = some (.array items) := by
      rw [member?, Members.get?_eq_head?, hvalues, List.head?_cons]
    rw [featureValues, typed, hmember]
    exact mapM_eq_some_iff.mp hitems
  | null | bool | number | string | array => cases typed

/-- The features of a document are read from their values one by one. -/
theorem forall₂_featureValues {value : Json} {d : Document Float} (read : ofJson value = .ok d) :
    List.Forall₂ (fun v f => Feature.ofJson? v = some f) (featureValues value) d.features := by
  obtain ⟨name, hname, hread⟩ := ofJson_eq_ok_iff.mp read
  cases d with
  | featureCollection c =>
    obtain ⟨rfl, hc⟩ := hread
    exact forall₂_featureValues_collection hname hc
  | feature f =>
    obtain ⟨rfl, hf⟩ := hread
    rw [featureValues, hname]
    exact .cons hf .nil
  | geometry g =>
    have hnone : featureValues value = [] := by
      rw [featureValues, hname]
      split
      · next h =>
        cases h
        cases hread.1
      · next h =>
        cases h
        cases hread.1
      · rfl
    rw [hnone]
    exact .nil

/-- Of a foreign member of a feature nothing is left. The feature is the one that would be read without it, and its
properties are the ones that were given. So foreign members are kept among them exactly when none has a key that was not
given there. -/
theorem foreign_kept_iff {value : Json} {d : Document Float} (read : ofJson value = .ok d) :
    List.Forall₂ (fun v f => ∀ members, v = .object members →
      Feature.ofJson? (.object (members.filter (·.1 ∈ Feature.knownKeys))) = some f ∧
        f.properties.getD [] = Feature.givenProperties members ∧
        (f.KeepsForeign members ↔
          ∀ m ∈ members, m.1 ∈ Feature.knownKeys ∨ m.1 ∈ (Feature.givenProperties members).map (·.1)))
      (featureValues value) d.features := by
  refine (forall₂_featureValues read).imp ?_
  rintro _ f hread members rfl
  exact ⟨(Feature.ofJson?_known members).trans hread, Feature.properties_of_ofJson? hread,
    Feature.keepsForeign_iff hread⟩

/-- A feature with a name of its own besides the one among its properties. -/
def renamed : Members :=
  [("geometry", .null), ("name", .string "new"), ("properties", .object [("name", .string "old")]),
    ("type", .string "Feature")]

/-- The renamed feature, and one that is an array. -/
def renamedCollection : Json :=
  .object [("features", .array [.object renamed, .array [.null, .null, .null]]), ("type", .string "FeatureCollection")]

/-- What the renamed feature is read as. -/
def renamedFeature : Feature Float := ⟨none, none, none, some [("name", .string "old")]⟩

/-- The name was given, so the foreign one does not have to be kept. -/
theorem foreign_kept_renamed :
    ofJson renamedCollection = .ok (.featureCollection ⟨none, [renamedFeature, ⟨none, none, none, none⟩]⟩) ∧
      renamedFeature.KeepsForeign renamed := by
  have hread : ofJson renamedCollection =
      .ok (.featureCollection ⟨none, [renamedFeature, ⟨none, none, none, none⟩]⟩) := rfl
  obtain - | ⟨hrenamed, -⟩ := foreign_kept_iff hread
  exact ⟨hread, (hrenamed renamed rfl).2.2.mpr (by decide)⟩

/-- A feature with a title that the format does not know. -/
def titled : Members :=
  [("geometry", .null), ("properties", .null), ("title", .string "Survey"), ("type", .string "Feature")]

/-- The title is lost. -/
theorem not_keepsForeign_titled :
    ofJson (.object titled) = .ok (.feature ⟨none, none, none, none⟩) ∧
      ¬ Feature.KeepsForeign ⟨none, none, none, none⟩ titled := by
  refine ⟨rfl, fun hkeeps => ?_⟩
  have htitle := hkeeps "title" (.string "Survey") (by simp [titled]) (by decide) (by decide)
  cases htitle

end Document

end AreaOfInterest
