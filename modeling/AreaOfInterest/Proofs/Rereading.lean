import AreaOfInterest.Proofs.KeyOrder

/-!
# Written and read again

A document is written in the order of the format's description, and it may be put in order before it is read. Either way
it comes back: positions with all their ordinates, geometries of every kind and nesting, and features in their order
with their boxes, identifiers and properties. The one thing that does not come back is an identifier that is null, since
a null is a missing identifier when it is read. No document that was read has one.
-/

namespace AreaOfInterest

open Json

namespace Position

theorem ofJson?_toJson (p : Position Float) : ofJson? p.toJson = some p := mapM_map_eq_some fun _ _ => rfl

theorem lineOfJson?_lineToJson (line : List (Position Float)) : lineOfJson? (lineToJson line) = some line :=
  mapM_map_eq_some fun p _ => ofJson?_toJson p

theorem ringsOfJson?_ringsToJson (rings : List (List (Position Float))) :
    ringsOfJson? (ringsToJson rings) = some rings := mapM_map_eq_some fun line _ => lineOfJson?_lineToJson line

end Position

/-- A kind is found by its name. -/
theorem GeometryKind.ofName?_name (kind : GeometryKind) : ofName? kind.name = some kind := by
  cases kind <;> rfl

namespace Geometry

/-- The type of a geometry is written once. -/
theorem values_type_members (g : Geometry Float) : g.members.values "type" = [.string g.kind.name] := by
  cases g <;> simp [members, GeometryKind.payloadKey, kind]

/-- The payload of a geometry is written once. -/
theorem values_payloadKey_members (g : Geometry Float) : g.members.values g.kind.payloadKey = [g.payload] := by
  cases g <;> simp [members, GeometryKind.payloadKey, kind]

/-- A geometry is read as it was written once its payload is. -/
theorem readJson?_toJson_of_payload {g : Geometry Float} (nested : Bool) (h : ofPayload? g.payload g.kind = some g) :
    readJson? nested g.toJson = some g := by
  rw [toJson_eq]
  exact readJson?_object_eq_some_iff.mpr ⟨_, _, values_type_members g, GeometryKind.ofName?_name g.kind,
    values_payloadKey_members g, h⟩

/-- What is written as the payload is read as it. -/
theorem ofPayload?_payload (g : Geometry Float) : ofPayload? g.payload g.kind = some g := by
  induction g using byMembers with
  | plain g hkind =>
    cases g with
    | point p => exact congrArg (Option.map point) (Position.ofJson?_toJson p)
    | multiPoint ps => exact congrArg (Option.map multiPoint) (Position.lineOfJson?_lineToJson ps)
    | lineString ps => exact congrArg (Option.map lineString) (Position.lineOfJson?_lineToJson ps)
    | multiLineString ls => exact congrArg (Option.map multiLineString) (Position.ringsOfJson?_ringsToJson ls)
    | polygon rs => exact congrArg (Option.map polygon) (Position.ringsOfJson?_ringsToJson rs)
    | multiPolygon ps =>
      exact congrArg (Option.map multiPolygon) (mapM_map_eq_some fun rs _ => Position.ringsOfJson?_ringsToJson rs)
    | collection => exact absurd rfl hkind
  | collection gs ih =>
    have hmembers : listOfJson? (.array (eachToJson gs)) = some gs := by
      rw [listOfJson?, eachOfJson?_eq_mapM, eachToJson_eq_map]
      exact mapM_map_eq_some fun g hg => readJson?_toJson_of_payload true (ih g hg)
    exact congrArg (Option.map collection) hmembers

/-- A geometry is read as it was written, by itself or within a collection. -/
theorem readJson?_toJson (nested : Bool) (g : Geometry Float) : readJson? nested g.toJson = some g :=
  readJson?_toJson_of_payload nested (ofPayload?_payload g)

end Geometry

section OptionalMember

variable {key : String} {value : Option Json}

/-- An optional member has the value that it was given. -/
@[simp]
theorem values_optionalMember_self : Members.values key (optionalMember key value) = value.toList := by
  cases value <;> simp [optionalMember]

/-- An optional member has no values under other keys. -/
@[simp]
theorem values_optionalMember_of_ne {other : String} (h : other ≠ key) :
    Members.values key (optionalMember other value) = [] := by
  cases value <;> simp [optionalMember, h]

/-- A value that is left out when it is missing is read as null then. -/
theorem valueOnce?_of_toList {members : Members} (h : Members.values key members = value.toList) :
    valueOnce? key members = some (value.getD .null) := by
  rw [valueOnce?_eq_some_iff, h]
  cases value <;> simp

/-- What is written for a value comes back, and so does a missing value, for which null is written. -/
theorem nullable_getD {β : Type} {read : Json → Option β} {write : β → Json} {value : Option β}
    (h : ∀ b ∈ value, read (write b) = some b ∧ write b ≠ .null) :
    nullable read ((value.map write).getD .null) = some value := by
  cases value with
  | none => rfl
  | some b =>
    obtain ⟨hread, hne⟩ := h b rfl
    exact (nullable_of_ne_null read hne).trans (congrArg (Option.map some) hread)

end OptionalMember

/-- A bounding box comes back. -/
theorem Position.nullable_toJson (bbox : Option (Position Float)) :
    nullable ofJson? ((bbox.map toJson).getD .null) = some bbox :=
  nullable_getD fun p _ => ⟨ofJson?_toJson p, Json.noConfusion⟩

namespace Feature

/-- The members that a feature is written with. -/
def members (f : Feature Float) : Members :=
  ("type", .string "Feature") :: optionalMember "id" f.id ++ optionalMember "bbox" (f.bbox.map Position.toJson) ++
    [("geometry", (f.geometry.map Geometry.toJson).getD .null),
     ("properties", (f.properties.map Json.object).getD .null)]

/-- A feature is read as it was written, unless its identifier is null. -/
theorem ofJson?_toJson {f : Feature Float} (h : f.id ≠ some .null) : ofJson? f.toJson = some f := by
  have hid : valueOnce? "id" f.members = some (f.id.getD .null) := valueOnce?_of_toList (by simp [members])
  have hbbox : valueOnce? "bbox" f.members = some ((f.bbox.map Position.toJson).getD .null) :=
    valueOnce?_of_toList (by simp [members])
  have hgeometry : valueOnce? "geometry" f.members = some ((f.geometry.map Geometry.toJson).getD .null) :=
    valueOnce?_eq_some_iff.mpr (.inl (by simp [members]))
  have hproperties : valueOnce? "properties" f.members = some ((f.properties.map Json.object).getD .null) :=
    valueOnce?_eq_some_iff.mpr (.inl (by simp [members]))
  have hfree : nullable some (f.id.getD .null) = some f.id := by
    cases hvalue : f.id with
    | none => rfl
    | some value => exact nullable_of_ne_null some fun hnull => h (hnull ▸ hvalue)
  refine ofJson?_object_eq_some_iff.mpr ⟨_, _, _, _, hid, hbbox, hgeometry, hproperties, ?_⟩
  exact ofValues?_eq_some_iff.mpr ⟨hfree, Position.nullable_toJson f.bbox,
    nullable_getD fun g _ => ⟨Geometry.readJson?_toJson false g, Geometry.toJson_eq g ▸ Json.noConfusion⟩,
    nullable_getD fun _ _ => ⟨rfl, Json.noConfusion⟩⟩

/-- A feature that was read has no null for an identifier. -/
theorem id_ne_null_of_ofValues? {id bbox geometry properties : Json} {f : Feature Float}
    (h : ofValues? id bbox geometry properties = some f) : f.id ≠ some .null := by
  intro hnull
  obtain ⟨hid, -⟩ := ofValues?_eq_some_iff.mp h
  rw [hnull] at hid
  cases id <;> cases hid

/-- A feature that was read has no null for an identifier. -/
theorem id_ne_null_of_ofJson? {value : Json} {f : Feature Float} (h : ofJson? value = some f) : f.id ≠ some .null := by
  match value, h with
  | .object members, h =>
    obtain ⟨_, _, _, _, -, -, -, -, hf⟩ := ofJson?_object_eq_some_iff.mp h
    exact id_ne_null_of_ofValues? hf
  | .array [_, _, _], h | .array [_, _, _, _], h => exact id_ne_null_of_ofValues? h

end Feature

namespace FeatureCollection

/-- The members that a feature collection is written with. -/
def members (c : FeatureCollection Float) : Members :=
  ("type", .string "FeatureCollection") :: optionalMember "bbox" (c.bbox.map Position.toJson) ++
    [("features", .array (c.features.map Feature.toJson))]

/-- A feature collection is read as it was written, unless an identifier is null. -/
theorem ofJson?_toJson {c : FeatureCollection Float} (h : ∀ f ∈ c.features, f.id ≠ some .null) :
    ofJson? c.toJson = some c := by
  have hbbox : valueOnce? "bbox" c.members = some ((c.bbox.map Position.toJson).getD .null) :=
    valueOnce?_of_toList (by simp [members])
  have hfeatures : valueOnce? "features" c.members = some (.array (c.features.map Feature.toJson)) :=
    valueOnce?_eq_some_iff.mpr (.inl (by simp [members]))
  refine ofJson?_object_eq_some_iff.mpr ⟨_, _, hbbox, hfeatures, ?_⟩
  exact ofValues?_eq_some_iff.mpr ⟨Position.nullable_toJson c.bbox, _, rfl,
    mapM_map_eq_some fun f hf => Feature.ofJson?_toJson (h f hf)⟩

/-- The features of a collection that was read have no null for an identifier. -/
theorem id_ne_null_of_ofValues? {bbox features : Json} {c : FeatureCollection Float}
    (h : ofValues? bbox features = some c) : ∀ f ∈ c.features, f.id ≠ some .null := by
  obtain ⟨-, items, -, hfeatures⟩ := ofValues?_eq_some_iff.mp h
  exact forall_mem_of_mapM_eq_some hfeatures fun _ _ => Feature.id_ne_null_of_ofJson?

/-- The features of a collection that was read have no null for an identifier. -/
theorem id_ne_null_of_ofJson? {value : Json} {c : FeatureCollection Float} (h : ofJson? value = some c) :
    ∀ f ∈ c.features, f.id ≠ some .null := by
  match value, h with
  | .object members, h =>
    obtain ⟨_, _, -, -, hc⟩ := ofJson?_object_eq_some_iff.mp h
    exact id_ne_null_of_ofValues? hc
  | .array [_, _], h => exact id_ne_null_of_ofValues? h

end FeatureCollection

namespace Document

/-- The name that is written for the type of a document. -/
def typeName : Document Float → String
  | featureCollection _ => "FeatureCollection"
  | feature _ => "Feature"
  | geometry g => g.kind.name

/-- The members that a document is written with. -/
def members : Document Float → Members
  | featureCollection c => c.members
  | feature f => f.members
  | geometry g => g.members

theorem toJson_eq (d : Document Float) : d.toJson = .object d.members := by
  cases d with
  | featureCollection | feature => rfl
  | geometry g => exact Geometry.toJson_eq g

/-- The type of a document is written once. -/
theorem values_type_members (d : Document Float) : d.members.values "type" = [.string d.typeName] := by
  cases d with
  | featureCollection c => simp [members, FeatureCollection.members, typeName]
  | feature f => simp [members, Feature.members, typeName]
  | geometry g => exact Geometry.values_type_members g

/-- A document is what it is read as when it was written, unless an identifier is null. -/
theorem isReadAs_toJson {d : Document Float} (h : ∀ f ∈ d.toFeatures.features, f.id ≠ some .null) :
    d.IsReadAs d.typeName d.toJson := by
  cases d with
  | featureCollection c => exact ⟨rfl, FeatureCollection.ofJson?_toJson h⟩
  | feature f => exact ⟨rfl, Feature.ofJson?_toJson (h f List.mem_cons_self)⟩
  | geometry g =>
    exact ⟨Option.isSome_of_eq_some (GeometryKind.ofName?_name g.kind), Geometry.readJson?_toJson false g⟩

/-- The features that a bare geometry is turned into have no identifiers. -/
theorem id_of_mem_geometry (g : Geometry Float) : ∀ f ∈ (geometry g).toFeatures.features, f.id = none := by
  cases g with
  | collection members => exact List.forall_mem_map.mpr fun _ _ => rfl
  | point | multiPoint | lineString | multiLineString | polygon | multiPolygon =>
    exact List.forall_mem_singleton.mpr rfl

/-- The features of a document that was read have no null for an identifier. -/
theorem IsReadAs.id_ne_null {name : String} {value : Json} {d : Document Float} (h : d.IsReadAs name value) :
    ∀ f ∈ d.toFeatures.features, f.id ≠ some .null := by
  cases d with
  | featureCollection c => exact FeatureCollection.id_ne_null_of_ofJson? h.2
  | feature f => exact List.forall_mem_singleton.mpr (Feature.id_ne_null_of_ofJson? h.2)
  | geometry g =>
    intro f hf
    rw [id_of_mem_geometry g f hf]
    exact nofun

/-- A document comes back as it was written exactly when no identifier is null. -/
theorem ofJson_toJson_iff {d : Document Float} :
    ofJson d.toJson = .ok d ↔ ∀ f ∈ d.toFeatures.features, f.id ≠ some .null := by
  constructor
  · intro h
    obtain ⟨name, -, hread⟩ := ofJson_eq_ok_iff.mp h
    exact hread.id_ne_null
  · intro h
    refine ofJson_eq_ok_iff.mpr ⟨d.typeName, ?_, isReadAs_toJson h⟩
    simp [toJson_eq, member?, Members.get?_eq_head?, values_type_members, text?]

/-- A document that was read of a value whose objects are maps comes back. Once it is written it is read as it was, in
the order of the format's description and also when what was written is put in order. -/
theorem survives_rewriting {value : Json} {d : Document Float} (ordered : value.sorted = value)
    (read : ofJson value = .ok d) : ofJson d.toJson = .ok d ∧ ofJson d.toJson.sorted = .ok d := by
  -- Ordering is used twice: on the value that was read, where it shows that the free values have their order, and on
  -- what was written, where these are all that it could change.
  have hfree : d.sorted = d := by
    have hsorted := ofJson_sorted (by rw [ordered]) read
    rw [ordered, read] at hsorted
    exact (Except.ok.inj hsorted).symm
  obtain ⟨name, -, hread⟩ := ofJson_eq_ok_iff.mp read
  have hwritten : ofJson d.toJson = .ok d := ofJson_toJson_iff.mpr hread.id_ne_null
  have htype : d.toJson.sorted.member? "type" = d.toJson.member? "type" := by
    rw [toJson_eq]
    exact member?_sorted_of_eq_singleton (values_type_members d)
  refine ⟨hwritten, ?_⟩
  rw [ofJson_sorted htype hwritten, hfree]

/-- A feature collection with a feature that is an array, a geometry that gives its kind by number, a member that is
not known, and members that are null. -/
def surveyed : Json :=
  .object [("type", .string "FeatureCollection"), ("name", .string "survey"),
    ("features", .array
      [.array [.number (.whole 7), .null, .object [("type", .string "GeometryCollection"),
        ("geometries", .array [.array [.number (.whole 0), .array [.number (.whole 1), .number (.whole 2)]],
          .object [("type", .string "GeometryCollection"), ("geometries", .array [])]])]],
       .object [("type", .string "Feature"), ("id", .null), ("geometry", .null),
        ("properties", .object [("north", .null), ("east", .object [("b", .bool true), ("a", .bool false)])])]])]

/-- What it is read as. -/
def survey : Document Float :=
  featureCollection ⟨none,
    [⟨some (.number (.whole 7)), none,
      some (.collection [.point [(Json.Number.whole 1).toFloat, (Json.Number.whole 2).toFloat], .collection []]), none⟩,
     ⟨none, none, none,
      some [("east", .object [("a", .bool false), ("b", .bool true)]), ("north", .null)]⟩]⟩

/-- The features of the survey come back, the empty collection within the first one included. -/
theorem survives_rewriting_survey : surveyed.sorted.sorted = surveyed.sorted ∧ ofJson surveyed.sorted = .ok survey ∧
    ofJson survey.toJson = .ok survey ∧ ofJson survey.toJson.sorted = .ok survey :=
  ⟨sorted_sorted surveyed, rfl, survives_rewriting (sorted_sorted surveyed) rfl⟩

end Document

end AreaOfInterest
