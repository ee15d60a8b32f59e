import AreaOfInterest.Proofs.Payloads

/-!
# Reading in any order

What is read of a value does not depend on the order of its members: once the value is put in order, the same is read of
it. A known member was there once, and of unknown ones nothing is read. Only the free values, which are identifiers and
properties, are kept as they are, so they are the ones that are put in order as well.
-/

namespace AreaOfInterest

open Json

namespace Json

/-- Only null becomes null. -/
theorem sorted_eq_null_iff {value : Json} : value.sorted = .null ↔ value = .null := by
  cases value <;> simp [sorted]

@[simp]
theorem float?_sorted (value : Json) : value.sorted.float? = value.float? := by
  cases value <;> rfl

theorem items?_sorted (value : Json) : value.sorted.items? = value.items?.map (·.map sorted) := by
  cases value with
  | array items => rw [sorted, sortedItems_eq_map]; rfl
  | null | bool | number | string | object => rfl

/-- Items of which the same is read one by one have the same read of them altogether. -/
theorem mapM_items?_sorted {β : Type} {read : Json → Option β} (h : ∀ item, read (sorted item) = read item)
    (value : Json) : value.sorted.items?.bind (·.mapM read) = value.items?.bind (·.mapM read) := by
  have hread (items : List Json) : (items.map sorted).mapM read = items.mapM read := by
    rw [List.mapM_map, show read ∘ sorted = read from funext h]
  simp only [items?_sorted, Option.bind_map, Function.comp_def, hread]

end Json

namespace Position

@[simp]
theorem ofJson?_sorted (value : Json) : ofJson? value.sorted = ofJson? value := mapM_items?_sorted float?_sorted value

@[simp]
theorem lineOfJson?_sorted (value : Json) : lineOfJson? value.sorted = lineOfJson? value :=
  mapM_items?_sorted ofJson?_sorted value

@[simp]
theorem ringsOfJson?_sorted (value : Json) : ringsOfJson? value.sorted = ringsOfJson? value :=
  mapM_items?_sorted lineOfJson?_sorted value

end Position

/-- A kind is a text or a number. -/
@[simp]
theorem GeometryKind.ofJson?_sorted (nested : Bool) (value : Json) :
    ofJson? nested value.sorted = ofJson? nested value := by
  cases value <;> rfl

namespace Geometry

/-- A geometry is read again once its payload is. -/
theorem readJson?_sorted_of_payload {nested : Bool} {value : Json} {g : Geometry Float}
    (payloads : ∀ payload, ofPayload? payload g.kind = some g → ofPayload? payload.sorted g.kind = some g)
    (h : readJson? nested value = some g) : readJson? nested value.sorted = some g := by
  match value with
  | .object members =>
    obtain ⟨kind, payload, htype, hkind, hpayload, hg⟩ := readJson?_object_eq_some_iff.mp h
    exact readJson?_object_eq_some_iff.mpr ⟨kind.sorted, payload.sorted, Members.values_sorted_of_eq_singleton htype,
      (GeometryKind.ofJson?_sorted nested kind).trans hkind, Members.values_sorted_of_eq_singleton hpayload,
      payloads payload hg⟩
  | .array items =>
    obtain ⟨kind, payload, rfl, hkind, hg⟩ := readJson?_array_eq_some_iff.mp h
    exact readJson?_array_eq_some_iff.mpr
      ⟨kind.sorted, payload.sorted, rfl, (GeometryKind.ofJson?_sorted nested kind).trans hkind, payloads payload hg⟩

/-- The same geometry is read of its payload. -/
theorem ofPayload?_sorted (g : Geometry Float) :
    ∀ payload, ofPayload? payload g.kind = some g → ofPayload? payload.sorted g.kind = some g := by
  induction g using byMembers with
  | plain g hkind =>
    intro payload h
    have hsame : ofPayload? payload.sorted g.kind = ofPayload? payload g.kind := by
      cases hg : g.kind with
      | geometryCollection => exact absurd hg hkind
      | multiPolygon => simp only [ofPayload?, mapM_items?_sorted Position.ringsOfJson?_sorted]
      | point | multiPoint | lineString | multiLineString | polygon => simp [ofPayload?]
    exact hsame.trans h
  | collection gs ih =>
    intro payload h
    obtain ⟨gs', hread, hgs⟩ := Option.map_eq_some_iff.mp h
    cases hgs
    refine Option.map_eq_some_iff.mpr ⟨gs, ?_, rfl⟩
    cases payload with
    | array items =>
      rw [listOfJson?, eachOfJson?_eq_mapM] at hread
      rw [sorted, listOfJson?, eachOfJson?_eq_mapM, sortedItems_eq_map]
      have hsorted : (items.map sorted).mapM (readJson? true) = some (gs.map id) :=
        mapM_map_of_mapM hread fun item g hg => readJson?_sorted_of_payload (ih g hg)
      rwa [List.map_id] at hsorted
    | null | bool | number | string | object => cases hread

/-- The same geometry is read, by itself or within a collection. -/
theorem readJson?_sorted {nested : Bool} {value : Json} {g : Geometry Float} (h : readJson? nested value = some g) :
    readJson? nested value.sorted = some g := readJson?_sorted_of_payload (ofPayload?_sorted g) h

end Geometry

/-- A text that is there once is found again. -/
theorem member?_sorted_of_eq_singleton {key text : String} {members : Members}
    (h : members.values key = [.string text]) :
    (object members).sorted.member? key = (object members).member? key := by
  simp only [sorted, member?, Members.get?_eq_head?, Members.values_sorted_of_eq_singleton h, h]

/-- A member that is there once, or is missing, is found again. -/
theorem valueOnce?_sorted {key : String} {members : Members} {value : Json} (h : valueOnce? key members = some value) :
    valueOnce? key (Members.ofList (sortedMembers members)) = some value.sorted := by
  rw [valueOnce?_eq_some_iff] at h ⊢
  obtain hvalue | ⟨hnone, rfl⟩ := h
  · exact .inl (Members.values_sorted_of_eq_singleton hvalue)
  · refine .inr ⟨?_, rfl⟩
    rw [Members.values_sorted, hnone]
    rfl

/-- What is read of a value that is not null changes with it. -/
theorem nullable_sorted {β : Type} {read : Json → Option β} {after : β → β} {value : Json} {result : Option β}
    (hread : nullable read value = some result) (h : ∀ b, read value = some b → read value.sorted = some (after b)) :
    nullable read value.sorted = some (result.map after) := by
  by_cases hnull : value = .null
  · subst hnull
    cases hread
    rfl
  · rw [nullable_of_ne_null read hnull] at hread
    obtain ⟨b, hb, rfl⟩ := Option.map_eq_some_iff.mp hread
    rw [nullable_of_ne_null read (mt sorted_eq_null_iff.mp hnull), h b hb]
    rfl

/-- What stays the same for a value that is not null stays the same. -/
theorem nullable_sorted_of_same {β : Type} {read : Json → Option β} {value : Json} {result : Option β}
    (hread : nullable read value = some result) (h : ∀ b, read value = some b → read value.sorted = some b) :
    nullable read value.sorted = some result := by
  have hmap : nullable read value.sorted = some (result.map id) := nullable_sorted hread h
  rwa [Option.map_id] at hmap

/-- A bounding box is read again. -/
theorem Position.nullable_sorted {value : Json} {bbox : Option (Position Float)}
    (h : nullable Position.ofJson? value = some bbox) : nullable Position.ofJson? value.sorted = some bbox :=
  nullable_sorted_of_same h fun _ hb => (ofJson?_sorted value).trans hb

/-- The same feature is read of its values, with its free ones put in order. -/
theorem Feature.ofValues?_sorted {id bbox geometry properties : Json} {f : Feature Float}
    (h : ofValues? id bbox geometry properties = some f) :
    ofValues? id.sorted bbox.sorted geometry.sorted properties.sorted = some f.sorted := by
  obtain ⟨hid, hbbox, hgeometry, hproperties⟩ := ofValues?_eq_some_iff.mp h
  refine ofValues?_eq_some_iff.mpr ⟨?_, Position.nullable_sorted hbbox, ?_, ?_⟩
  · refine nullable_sorted hid fun value hvalue => ?_
    rw [Option.some.inj hvalue]
  · exact nullable_sorted_of_same hgeometry fun g => Geometry.readJson?_sorted
  · refine nullable_sorted hproperties fun members hmembers => ?_
    cases properties with
    | object => cases hmembers; rfl
    | null | bool | number | string | array => cases hmembers

/-- The same feature is read, with its free values put in order. -/
theorem Feature.ofJson?_sorted {value : Json} {f : Feature Float} (h : ofJson? value = some f) :
    ofJson? value.sorted = some f.sorted := by
  match value, h with
  | .object members, h =>
    obtain ⟨id, bbox, geometry, properties, hid, hbbox, hgeometry, hproperties, hf⟩ :=
      ofJson?_object_eq_some_iff.mp h
    exact ofJson?_object_eq_some_iff.mpr ⟨_, _, _, _, valueOnce?_sorted hid, valueOnce?_sorted hbbox,
      valueOnce?_sorted hgeometry, valueOnce?_sorted hproperties, ofValues?_sorted hf⟩
  | .array [id, bbox, geometry], h => exact ofValues?_sorted h
  | .array [id, bbox, geometry, properties], h => exact ofValues?_sorted h

/-- The feature collection with the free values of its features put in order. -/
def FeatureCollection.sorted {α : Type} (c : FeatureCollection α) : FeatureCollection α :=
  { c with features := c.features.map Feature.sorted }

/-- The same feature collection is read of its values, with free ones put in order. -/
theorem FeatureCollection.ofValues?_sorted {bbox features : Json} {c : FeatureCollection Float}
    (h : ofValues? bbox features = some c) : ofValues? bbox.sorted features.sorted = some c.sorted := by
  obtain ⟨hbbox, items, rfl, hfeatures⟩ := ofValues?_eq_some_iff.mp h
  refine ofValues?_eq_some_iff.mpr ⟨Position.nullable_sorted hbbox, items.map Json.sorted, ?_, ?_⟩
  · rw [Json.sorted, sortedItems_eq_map]
  · exact mapM_map_of_mapM hfeatures fun item f _ => Feature.ofJson?_sorted

/-- The same feature collection is read, with free values put in order. -/
theorem FeatureCollection.ofJson?_sorted {value : Json} {c : FeatureCollection Float} (h : ofJson? value = some c) :
    ofJson? value.sorted = some c.sorted := by
  match value, h with
  | .object members, h =>
    obtain ⟨bbox, features, hbbox, hfeatures, hc⟩ := ofJson?_object_eq_some_iff.mp h
    exact ofJson?_object_eq_some_iff.mpr
      ⟨_, _, valueOnce?_sorted hbbox, valueOnce?_sorted hfeatures, ofValues?_sorted hc⟩
  | .array [bbox, features], h => exact ofValues?_sorted h

namespace Document

/-- The document with the free values of its features put in order. -/
def sorted {α : Type} : Document α → Document α
  | featureCollection c => featureCollection c.sorted
  | feature f => feature f.sorted
  | geometry g => geometry g

/-- Whether a document is what a value of a type is read as. -/
def IsReadAs (name : String) (value : Json) : Document Float → Prop
  | featureCollection c => name = "FeatureCollection" ∧ FeatureCollection.ofJson? value = some c
  | feature f => name = "Feature" ∧ Feature.ofJson? value = some f
  | geometry g => (GeometryKind.ofName? name).isSome ∧ Geometry.ofJson? value = some g

/-- A value with a type is read as what the type says. -/
theorem ofJson_eq_ok_iff {value : Json} {d : Document Float} :
    ofJson value = .ok d ↔ ∃ name, (value.member? "type").bind text? = some name ∧ d.IsReadAs name value := by
  -- The two names that are no kinds have to be known as such, or a geometry could be read under them.
  have hcollection : GeometryKind.ofName? "FeatureCollection" = none := rfl
  have hfeature : GeometryKind.ofName? "Feature" = none := rfl
  rw [ofJson]
  split
  case h_1 hname => simp [hname]
  case h_2 hname =>
    cases hread : FeatureCollection.ofJson? value <;> cases d <;> simp [hname, hread, hcollection, IsReadAs]
  case h_3 hname =>
    cases hread : Feature.ofJson? value <;> cases d <;> simp [hname, hread, hfeature, IsReadAs]
  case h_4 name hnotCollection hnotFeature hname =>
    rw [imp_false, ← ne_eq] at hnotCollection hnotFeature
    cases hkind : GeometryKind.ofName? name <;> cases hread : Geometry.ofJson? value <;> cases d <;>
      simp [hname, hread, hkind, hnotCollection, hnotFeature, IsReadAs]

/-- The same document is read, with free values put in order. -/
theorem IsReadAs.sorted {name : String} {value : Json} {d : Document Float} (h : d.IsReadAs name value) :
    d.sorted.IsReadAs name value.sorted := by
  cases d with
  | featureCollection c => exact ⟨h.1, FeatureCollection.ofJson?_sorted h.2⟩
  | feature f => exact ⟨h.1, Feature.ofJson?_sorted h.2⟩
  | geometry g => exact ⟨h.1, Geometry.readJson?_sorted h.2⟩

/-- When the type is found again, the same document is read, with free values put in order. -/
theorem ofJson_sorted {value : Json} {d : Document Float} (htype : value.sorted.member? "type" = value.member? "type")
    (h : ofJson value = .ok d) : ofJson value.sorted = .ok d.sorted := by
  obtain ⟨name, hname, hread⟩ := ofJson_eq_ok_iff.mp h
  exact ofJson_eq_ok_iff.mpr ⟨name, htype ▸ hname, hread.sorted⟩

end Document

end AreaOfInterest
