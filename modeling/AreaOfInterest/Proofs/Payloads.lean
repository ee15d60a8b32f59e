import AreaOfInterest.GeoJson.Decode
import AreaOfInterest.GeoJson.Encode
import AreaOfInterest.Proofs.Members
import Mathlib.Data.List.Forall2

/-!
# Tags and payloads

A geometry is a kind and a payload, and it is read in two steps: its kind first, then what the kind makes of the
payload. An object has the two under their keys, each there once, and an array has nothing else. Writing puts the kind's
name and the payload into an object, so reading needs to be settled for payloads only.

Features and collections of features are read member by member. A member is missing, or it is there once.
-/

namespace AreaOfInterest

open Json

/-- The only element makes up the list. -/
theorem only?_eq_some_iff {β : Type} {bs : List β} {b : β} : only? bs = some b ↔ bs = [b] := by
  match bs with
  | [] => simp [only?]
  | [_] => simp [only?]
  | _ :: _ :: _ => simp [only?]

/-- The only element of a mapped list is that of the list. -/
theorem only?_map {β γ : Type} (f : β → γ) (bs : List β) : only? (bs.map f) = (only? bs).map f := by
  match bs with
  | [] | [_] | _ :: _ :: _ => rfl

/-- Several values are read when each of them is. -/
theorem mapM_eq_some_iff {β γ : Type} {read : β → Option γ} {xs : List β} {ys : List γ} :
    xs.mapM read = some ys ↔ List.Forall₂ (fun x y => read x = some y) xs ys := by
  induction xs generalizing ys with
  | nil => simp [eq_comm]
  | cons x xs ih =>
    simp only [List.mapM_cons, Option.bind_eq_bind, Option.bind_eq_some_iff, List.forall₂_cons_left_iff, ih,
      Option.pure_def, Option.some.injEq]
    constructor
    · rintro ⟨y, hy, rest, hrest, rfl⟩
      exact ⟨y, rest, hy, hrest, rfl⟩
    · rintro ⟨y, rest, hy, hrest, rfl⟩
      exact ⟨y, hy, rest, hrest, rfl⟩

/-- What is written value by value is read back. -/
theorem mapM_map_eq_some {β γ : Type} {read : β → Option γ} {write : γ → β} {ys : List γ}
    (h : ∀ y ∈ ys, read (write y) = some y) : (ys.map write).mapM read = some ys := by
  rw [mapM_eq_some_iff, List.forall₂_map_left_iff, List.forall₂_same]
  exact h

/-- When values are changed, what is read of them changes one by one. -/
theorem mapM_map_of_mapM {β γ : Type} {read : β → Option γ} {before : β → β} {after : γ → γ} {xs : List β} {ys : List γ}
    (hread : xs.mapM read = some ys) (h : ∀ x, ∀ y ∈ ys, read x = some y → read (before x) = some (after y)) :
    (xs.map before).mapM read = some (ys.map after) := by
  rw [mapM_eq_some_iff] at hread ⊢
  induction hread with
  | nil => exact .nil
  | cons hx _ ih => exact .cons (h _ _ List.mem_cons_self hx) (ih fun x y hy => h x y (List.mem_cons_of_mem _ hy))

/-- What is so of whatever is read is so of several values. -/
theorem forall_mem_of_mapM_eq_some {β γ : Type} {read : β → Option γ} {P : γ → Prop} {xs : List β} {ys : List γ}
    (hread : xs.mapM read = some ys) (h : ∀ x y, read x = some y → P y) : ∀ y ∈ ys, P y := by
  rw [mapM_eq_some_iff] at hread
  induction hread with
  | nil => exact List.forall_mem_nil P
  | cons hx _ ih => exact List.forall_mem_cons.mpr ⟨h _ _ hx, ih⟩

/-- Only an array has items. -/
theorem Json.items?_eq_some_iff {value : Json} {items : List Json} :
    value.items? = some items ↔ value = .array items := by
  cases value <;> simp [items?]

/-- A value that is there once, or null for a missing one. -/
theorem valueOnce?_eq_some_iff {key : String} {members : Members} {value : Json} :
    valueOnce? key members = some value ↔
      Members.values key members = [value] ∨ Members.values key members = [] ∧ value = .null := by
  rw [valueOnce?, Members.values]
  generalize members.filter _ = found
  rcases found with _ | ⟨m, _ | ⟨m', rest⟩⟩
  · simp [eq_comm]
  · simp
  · simp

/-- A value that is not null is read. -/
theorem nullable_of_ne_null {β : Type} (read : Json → Option β) {value : Json} (h : value ≠ .null) :
    nullable read value = (read value).map some := by
  cases value with
  | null => exact absurd rfl h
  | bool | number | string | array | object => rfl

/-- The key of the payload. -/
def GeometryKind.payloadKey : GeometryKind → String
  | geometryCollection => "geometries"
  | _ => "coordinates"

namespace Geometry

section Induction

variable {α : Type} {P : Geometry α → Prop}

mutual

/-- What is so of all kinds but collections, and of a collection when it is so of its members, is so of all
geometries. -/
@[elab_as_elim]
theorem byMembers (plain : ∀ g, g.kind ≠ .geometryCollection → P g)
    (collection : ∀ gs, (∀ g ∈ gs, P g) → P (.collection gs)) : ∀ g, P g
  | .collection gs => collection gs (forall_mem_byMembers plain collection gs)
  | .point _ | .multiPoint _ | .lineString _ | .multiLineString _ | .polygon _ | .multiPolygon _ =>
    plain _ GeometryKind.noConfusion

/-- What is so in this way is so of each of several geometries. -/
theorem forall_mem_byMembers (plain : ∀ g, g.kind ≠ .geometryCollection → P g)
    (collection : ∀ gs, (∀ g ∈ gs, P g) → P (.collection gs)) : ∀ gs : List (Geometry α), ∀ g ∈ gs, P g
  | [] => List.forall_mem_nil P
  | g :: rest => List.forall_mem_cons.mpr ⟨byMembers plain collection g, forall_mem_byMembers plain collection rest⟩

end

end Induction

/-- What a geometry is written as, apart from its kind. -/
def payload : Geometry Float → Json
  | point p => Position.toJson p
  | multiPoint ps | lineString ps => Position.lineToJson ps
  | multiLineString ls | polygon ls => Position.ringsToJson ls
  | multiPolygon ps => .array (ps.map Position.ringsToJson)
  | collection members => .array (eachToJson members)

/-- The geometry of a kind that a payload stands for. -/
def ofPayload? (payload : Json) : GeometryKind → Option (Geometry Float)
  | .point => (Position.ofJson? payload).map point
  | .multiPoint => (Position.lineOfJson? payload).map multiPoint
  | .lineString => (Position.lineOfJson? payload).map lineString
  | .multiLineString => (Position.ringsOfJson? payload).map multiLineString
  | .polygon => (Position.ringsOfJson? payload).map polygon
  | .multiPolygon => (payload.items?.bind (·.mapM Position.ringsOfJson?)).map multiPolygon
  | .geometryCollection => (listOfJson? payload).map collection

/-- A payload gives a geometry of the kind that it is read as. -/
theorem kind_of_ofPayload? {payload : Json} {kind : GeometryKind} {g : Geometry Float}
    (h : ofPayload? payload kind = some g) : g.kind = kind := by
  cases kind <;> obtain ⟨_, -, rfl⟩ := Option.map_eq_some_iff.mp h <;> rfl

/-- The members that a geometry is written with: the name of its kind, and its payload. -/
def members (g : Geometry Float) : Members := [("type", .string g.kind.name), (g.kind.payloadKey, g.payload)]

theorem toJson_eq (g : Geometry Float) : g.toJson = .object g.members := by
  cases g <;> rw [toJson] <;> rfl

/-- The members of an object are told apart by their keys. -/
theorem partsOfMembers_eq (members : Members) : partsOfMembers members =
    ⟨members.values "type", members.values "coordinates", (members.values "geometries").map listOfJson?⟩ := by
  induction members with
  | nil => rfl
  | cons member rest ih =>
    obtain ⟨key, value⟩ := member
    rw [partsOfMembers, ih]
    dsimp only
    split_ifs with htype hcoordinates hgeometries
    · simp [htype]
    · simp [hcoordinates]
    · simp [hgeometries]
    · simp [htype, hcoordinates, hgeometries]

/-- The geometries of a collection are read one by one. -/
theorem eachOfJson?_eq_mapM (items : List Json) : eachOfJson? items = items.mapM (readJson? true) := by
  induction items with
  | nil => rfl
  | cons item rest ih =>
    rw [eachOfJson?, List.mapM_cons, ih]
    cases readJson? true item <;> cases rest.mapM (readJson? true) <;> rfl

/-- The geometries of a collection are written one by one. -/
theorem eachToJson_eq_map (gs : List (Geometry Float)) : eachToJson gs = gs.map toJson := by
  induction gs with
  | nil => rfl
  | cons g rest ih => rw [eachToJson, ih, List.map_cons]

/-- The parts of a geometry are read kind first. -/
theorem ofParts?_eq (nested : Bool) (kinds coordinates geometries : List Json) :
    ofParts? nested ⟨kinds, coordinates, geometries.map listOfJson?⟩ = (do
      let kind ← GeometryKind.ofJson? nested (← only? kinds)
      ofPayload? (← only? (if kind = .geometryCollection then geometries else coordinates)) kind) := by
  rw [ofParts?]
  refine bind_congr fun value => bind_congr fun kind => ?_
  cases kind with
  | geometryCollection =>
    simp only [only?_map, if_pos]
    cases only? geometries with
    | none => rfl
    | some payload => cases hlist : listOfJson? payload <;> simp [ofPayload?, hlist]
  | point | multiPoint | lineString | multiLineString | polygon | multiPolygon =>
    simp only [ofPayload?, Option.map_eq_bind, Option.bind_assoc, Function.comp_def, Option.bind_eq_bind,
      Option.pure_def, reduceCtorEq, ↓reduceIte]

/-- An object is read by the value of `type` and that of the payload's key. -/
theorem readJson?_object_eq_some_iff {nested : Bool} {members : Members} {g : Geometry Float} :
    readJson? nested (.object members) = some g ↔
      ∃ kind payload, members.values "type" = [kind] ∧ GeometryKind.ofJson? nested kind = some g.kind ∧
        members.values g.kind.payloadKey = [payload] ∧ ofPayload? payload g.kind = some g := by
  have hkey (kind : GeometryKind) : (if kind = .geometryCollection then members.values "geometries"
      else members.values "coordinates") = members.values kind.payloadKey := by
    cases kind <;> rfl
  simp only [readJson?, partsOfMembers_eq, ofParts?_eq, hkey, Option.bind_eq_bind, Option.bind_eq_some_iff,
    only?_eq_some_iff]
  constructor
  · rintro ⟨value, hvalue, kind, hkind, payload, hpayload, hg⟩
    obtain rfl := kind_of_ofPayload? hg
    exact ⟨value, payload, hvalue, hkind, hpayload, hg⟩
  · rintro ⟨value, payload, hvalue, hkind, hpayload, hg⟩
    exact ⟨value, hvalue, g.kind, hkind, payload, hpayload, hg⟩

/-- A pair is read as a kind and a payload. -/
theorem ofPair?_eq (nested : Bool) (value payload : Json) :
    ofPair? nested [value, payload] = (GeometryKind.ofJson? nested value).bind (ofPayload? payload) := by
  have hparts := ofParts?_eq nested [value] [payload] [payload]
  simpa only [ofPair?, only?, ite_self, List.map_cons, List.map_nil, Option.bind_eq_bind, Option.bind_some] using hparts

/-- An array is read when it is a pair. -/
theorem readJson?_array_eq_some_iff {nested : Bool} {items : List Json} {g : Geometry Float} :
    readJson? nested (.array items) = some g ↔
      ∃ value payload, items = [value, payload] ∧ GeometryKind.ofJson? nested value = some g.kind ∧
        ofPayload? payload g.kind = some g := by
  rw [readJson?]
  constructor
  · intro h
    match items with
    | [value, payload] =>
      rw [ofPair?_eq, Option.bind_eq_some_iff] at h
      obtain ⟨kind, hkind, hg⟩ := h
      obtain rfl := kind_of_ofPayload? hg
      exact ⟨value, payload, rfl, hkind, hg⟩
    | [] | [_] | _ :: _ :: _ :: _ => cases h
  · rintro ⟨value, payload, rfl, hkind, hg⟩
    rw [ofPair?_eq, hkind]
    exact hg

end Geometry

/-- A feature is read from the values of its members one by one. -/
theorem Feature.ofValues?_eq_some_iff {id bbox geometry properties : Json} {f : Feature Float} :
    ofValues? id bbox geometry properties = some f ↔
      nullable some id = some f.id ∧ nullable Position.ofJson? bbox = some f.bbox ∧
        nullable Geometry.ofJson? geometry = some f.geometry ∧
        nullable membersOfJson? properties = some f.properties := by
  obtain ⟨id', bbox', geometry', properties'⟩ := f
  simp only [ofValues?, Option.bind_eq_bind, Option.bind_eq_some_iff, Option.pure_def, Option.some.injEq, mk.injEq]
  constructor
  · rintro ⟨_, hid, _, hbbox, _, hgeometry, _, hproperties, rfl, rfl, rfl, rfl⟩
    exact ⟨hid, hbbox, hgeometry, hproperties⟩
  · rintro ⟨hid, hbbox, hgeometry, hproperties⟩
    exact ⟨_, hid, _, hbbox, _, hgeometry, _, hproperties, rfl, rfl, rfl, rfl⟩

/-- An object is read as a feature by its known members. -/
theorem Feature.ofJson?_object_eq_some_iff {members : Members} {f : Feature Float} :
    ofJson? (.object members) = some f ↔
      ∃ id bbox geometry properties, valueOnce? "id" members = some id ∧ valueOnce? "bbox" members = some bbox ∧
        valueOnce? "geometry" members = some geometry ∧ valueOnce? "properties" members = some properties ∧
        ofValues? id bbox geometry properties = some f := by
  simp only [ofJson?, Option.bind_eq_bind, Option.bind_eq_some_iff]
  constructor
  · rintro ⟨id, hid, bbox, hbbox, geometry, hgeometry, properties, hproperties, hf⟩
    exact ⟨id, bbox, geometry, properties, hid, hbbox, hgeometry, hproperties, hf⟩
  · rintro ⟨id, bbox, geometry, properties, hid, hbbox, hgeometry, hproperties, hf⟩
    exact ⟨id, hid, bbox, hbbox, geometry, hgeometry, properties, hproperties, hf⟩

/-- A feature collection is read from the values of its members one by one. -/
theorem FeatureCollection.ofValues?_eq_some_iff {bbox features : Json} {c : FeatureCollection Float} :
    ofValues? bbox features = some c ↔
      nullable Position.ofJson? bbox = some c.bbox ∧
        ∃ items, features = .array items ∧ items.mapM Feature.ofJson? = some c.features := by
  obtain ⟨bbox', features'⟩ := c
  simp only [ofValues?, Option.bind_eq_bind, Option.bind_eq_some_iff, Option.pure_def, Option.some.injEq, mk.injEq,
    items?_eq_some_iff]
  constructor
  · rintro ⟨_, hbbox, items, hitems, _, hfeatures, rfl, rfl⟩
    exact ⟨hbbox, items, hitems, hfeatures⟩
  · rintro ⟨hbbox, items, hitems, hfeatures⟩
    exact ⟨_, hbbox, items, hitems, _, hfeatures, rfl, rfl⟩

/-- An object is read as a feature collection by its known members. -/
theorem FeatureCollection.ofJson?_object_eq_some_iff {members : Members} {c : FeatureCollection Float} :
    ofJson? (.object members) = some c ↔
      ∃ bbox features, valueOnce? "bbox" members = some bbox ∧ valueOnce? "features" members = some features ∧
        ofValues? bbox features = some c := by
  simp only [ofJson?, Option.bind_eq_bind, Option.bind_eq_some_iff]
  constructor
  · rintro ⟨bbox, hbbox, features, hfeatures, hc⟩
    exact ⟨bbox, features, hbbox, hfeatures, hc⟩
  · rintro ⟨bbox, features, hbbox, hfeatures, hc⟩
    exact ⟨bbox, hbbox, features, hfeatures, hc⟩

end AreaOfInterest
