import AreaOfInterest.Selection.Place
import AreaOfInterest.Proofs.KeyOrder

/-!
# Labels of places

The properties of a hit are read as a whole. The members that labels are made of have to be texts, null or missing, and
the address an object or an array of such parts. When any of them is something else nothing is read. Taken one by one,
the members would say what they can, whatever the others are. Where the properties fit both ways come to the same.

What was read is written as properties again and read back from there, which changes nothing.
-/

namespace AreaOfInterest

open Json

namespace Json

/-- A text, or nothing in its place. -/
inductive IsTextOrNull : Option Json → Prop where
  | missing : IsTextOrNull none
  | null : IsTextOrNull (some .null)
  | text (s : String) : IsTextOrNull (some (.string s))

/-- What a value says by itself: its text, unless it has none or an empty one. -/
def usable? (value : Option Json) : Option String := (value.bind text?).filter (· ≠ "")

/-- A text or nothing is read as what there is. -/
theorem textOrNull?_eq_some_iff {value : Option Json} {text : Option String} :
    textOrNull? value = some text ↔ IsTextOrNull value ∧ value.bind text? = text := by
  constructor
  · intro h
    match value, h with
    | none, h => exact ⟨.missing, Option.some.inj h⟩
    | some .null, h => exact ⟨.null, Option.some.inj h⟩
    | some (.string s), h => exact ⟨.text s, Option.some.inj h⟩
  · rintro ⟨hvalue, rfl⟩
    cases hvalue <;> rfl

end Json

namespace PlaceLabels

/-- Nothing is dropped but the empty text. -/
theorem nonEmpty?_eq_self_iff {text : Option String} : nonEmpty? text = text ↔ text ≠ some "" := by
  cases text with
  | none => simp [nonEmpty?]
  | some s => by_cases h : s = "" <;> simp [nonEmpty?, Option.filter, h]

/-- What is left is not empty. -/
theorem nonEmpty?_ne (text : Option String) : nonEmpty? text ≠ some "" := by
  simp [nonEmpty?, Option.filter_eq_some_iff]

/-- Of two texts that are not empty neither is the one that counts. -/
theorem or_ne {text other : Option String} (h : text ≠ some "") (h' : other ≠ some "") : text.or other ≠ some "" := by
  cases text with
  | none => exact h'
  | some s => exact h

end PlaceLabels

open PlaceLabels

namespace Address

/-- The keys of the parts of an address. -/
def keys : List String := ["country", "state", "province", "region", "county"]

/-- The values of the parts, which are the members of an object, or the five items of an array in their order. -/
def parts? : Json → Option (List (Option Json))
  | .object members => some (keys.map (Members.get? members))
  | .array [country, state, province, region, county] =>
    some [some country, some state, some province, some region, some county]
  | _ => none

/-- An address of which each part is a text, null or missing. -/
def Fits (value : Json) : Prop := ∃ parts ∈ parts? value, ∀ part ∈ parts, IsTextOrNull part

/-- The parts of an address that can be used, each taken by itself. -/
def usable (value : Json) : Address :=
  match parts? value with
  | some [country, state, province, region, county] =>
    ⟨usable? country, usable? state, usable? province, usable? region, usable? county⟩
  | _ => {}

/-- The address without its empty parts. -/
def nonEmpty (a : Address) : Address :=
  ⟨nonEmpty? a.country, nonEmpty? a.state, nonEmpty? a.province, nonEmpty? a.region, nonEmpty? a.county⟩

/-- The address of five parts. -/
def ofParts? : List (Option Json) → Option Address
  | [country, state, province, region, county] => do
    return ⟨← textOrNull? country, ← textOrNull? state, ← textOrNull? province, ← textOrNull? region,
      ← textOrNull? county⟩
  | _ => none

/-- An address is that of its parts. -/
theorem ofJson?_eq_bind (value : Json) : ofJson? value = (parts? value).bind ofParts? := by
  match value with
  | .object _ => rfl
  | .array [_, _, _, _, _] => rfl
  | .array [] | .array [_] | .array [_, _] | .array [_, _, _] | .array [_, _, _, _] => rfl
  | .array (_ :: _ :: _ :: _ :: _ :: _ :: _) => rfl
  | .null | .bool _ | .number _ | .string _ => rfl

/-- There are five parts. -/
theorem exists_of_parts? {value : Json} {parts : List (Option Json)} (h : parts? value = some parts) :
    ∃ country state province region county, parts = [country, state, province, region, county] := by
  match value, h with
  | .object _, h => exact ⟨_, _, _, _, _, (Option.some.inj h).symm⟩
  | .array [_, _, _, _, _], h => exact ⟨_, _, _, _, _, (Option.some.inj h).symm⟩

/-- Five parts give an address when each of them is a text, null or missing. -/
theorem ofParts?_eq_some_iff {country state province region county : Option Json} {a : Address} :
    ofParts? [country, state, province, region, county] = some a ↔
      (∀ part ∈ [country, state, province, region, county], IsTextOrNull part) ∧
        a = ⟨country.bind text?, state.bind text?, province.bind text?, region.bind text?, county.bind text?⟩ := by
  simp only [ofParts?, Option.bind_eq_bind, Option.bind_eq_some_iff, textOrNull?_eq_some_iff, List.forall_mem_cons,
    List.not_mem_nil, Option.pure_def, Option.some.injEq]
  constructor
  · rintro ⟨_, ⟨hcountry, rfl⟩, _, ⟨hstate, rfl⟩, _, ⟨hprovince, rfl⟩, _, ⟨hregion, rfl⟩, _, ⟨hcounty, rfl⟩, rfl⟩
    exact ⟨⟨hcountry, hstate, hprovince, hregion, hcounty, nofun⟩, rfl⟩
  · rintro ⟨⟨hcountry, hstate, hprovince, hregion, hcounty, -⟩, rfl⟩
    exact ⟨_, ⟨hcountry, rfl⟩, _, ⟨hstate, rfl⟩, _, ⟨hprovince, rfl⟩, _, ⟨hregion, rfl⟩, _, ⟨hcounty, rfl⟩, rfl⟩

/-- An address is read when all of it fits. -/
theorem isSome_ofJson?_iff {value : Json} : (ofJson? value).isSome ↔ Fits value := by
  rw [ofJson?_eq_bind, Fits]
  cases hparts : parts? value with
  | none => simp
  | some parts =>
    obtain ⟨country, state, province, region, county, rfl⟩ := exists_of_parts? hparts
    simp [Option.isSome_iff_exists, ofParts?_eq_some_iff]

/-- What is read of an address is what can be used of it, part by part. -/
theorem nonEmpty_of_ofJson? {value : Json} {a : Address} (h : ofJson? value = some a) : a.nonEmpty = usable value := by
  rw [ofJson?_eq_bind, Option.bind_eq_some_iff] at h
  obtain ⟨parts, hparts, h⟩ := h
  obtain ⟨country, state, province, region, county, rfl⟩ := exists_of_parts? hparts
  obtain ⟨-, rfl⟩ := ofParts?_eq_some_iff.mp h
  rw [usable, hparts]
  rfl

end Address

namespace PlaceLabels

/-- Properties of which each known member is as it should be. An address may be missing, but not null. -/
structure Fits (properties : Members) : Prop where
  name : IsTextOrNull (properties.get? "name")
  displayName : IsTextOrNull (properties.get? "display_name")
  address : ∀ value ∈ properties.get? "address", Address.Fits value

/-- The parts of the address that can be used, each taken by itself. -/
def usableAddress (properties : Members) : Address := ((properties.get? "address").map Address.usable).getD {}

/-- The address that properties give. A missing one has no parts. -/
def addressOf? (properties : Members) : Option Address :=
  (properties.get? "address").elim (some {}) Address.ofJson?

/-- Labels are read of the address, the name and the name for display. -/
theorem ofProperties?_eq_bind (properties : Members) : ofProperties? properties =
    (addressOf? properties).bind fun address =>
      (textOrNull? (properties.get? "name")).bind fun name =>
        (textOrNull? (properties.get? "display_name")).bind fun displayName =>
          some ⟨name, displayName, address⟩ := by
  rw [ofProperties?, addressOf?]
  cases properties.get? "address" <;> rfl

/-- The address is read when it fits. -/
theorem isSome_addressOf?_iff {properties : Members} :
    (addressOf? properties).isSome ↔ ∀ value ∈ properties.get? "address", Address.Fits value := by
  rw [addressOf?]
  cases properties.get? "address" with
  | none => simp
  | some value => simp [Address.isSome_ofJson?_iff]

/-- What is read of the address is what can be used of it, part by part. -/
theorem nonEmpty_of_addressOf? {properties : Members} {a : Address} (h : addressOf? properties = some a) :
    a.nonEmpty = usableAddress properties := by
  rw [addressOf?] at h
  rw [usableAddress]
  generalize properties.get? "address" = value at h
  cases value with
  | none =>
    obtain rfl := Option.some.inj h
    rfl
  | some value => exact Address.nonEmpty_of_ofJson? h

/-- The labels that properties give are what their members say, when all of them fit. -/
theorem ofProperties?_eq_some_iff {properties : Members} {labels : PlaceLabels} :
    ofProperties? properties = some labels ↔ Fits properties ∧
      labels.name = (properties.get? "name").bind text? ∧
      labels.displayName = (properties.get? "display_name").bind text? ∧
      addressOf? properties = some labels.address := by
  simp only [ofProperties?_eq_bind, Option.bind_eq_some_iff, textOrNull?_eq_some_iff, Option.some.injEq]
  constructor
  · rintro ⟨a, ha, _, ⟨hname, rfl⟩, _, ⟨hdisplay, rfl⟩, rfl⟩
    exact ⟨⟨hname, hdisplay, isSome_addressOf?_iff.mp (Option.isSome_of_eq_some ha)⟩, rfl, rfl, ha⟩
  · rintro ⟨h, hname, hdisplay, ha⟩
    exact ⟨_, ha, _, ⟨h.name, hname.symm⟩, _, ⟨h.displayName, hdisplay.symm⟩, rfl⟩

/-- Properties give labels when all of them fit. -/
theorem isSome_ofProperties?_iff {properties : Members} : (ofProperties? properties).isSome ↔ Fits properties := by
  rw [Option.isSome_iff_exists]
  refine ⟨fun ⟨labels, h⟩ => (ofProperties?_eq_some_iff.mp h).1, fun h => ?_⟩
  obtain ⟨a, ha⟩ := Option.isSome_iff_exists.mp (isSome_addressOf?_iff.mpr h.address)
  exact ⟨⟨_, _, a⟩, ofProperties?_eq_some_iff.mpr ⟨h, rfl, rfl, ha⟩⟩

/-- The name and the address that are read are what can be used of them, part by part. -/
theorem usable_of_ofProperties? {properties : Members} {labels : PlaceLabels}
    (h : ofProperties? properties = some labels) :
    nonEmpty? labels.name = usable? (properties.get? "name") ∧ labels.address.nonEmpty = usableAddress properties := by
  obtain ⟨-, hname, -, haddress⟩ := ofProperties?_eq_some_iff.mp h
  exact ⟨by rw [hname]; rfl, nonEmpty_of_addressOf? haddress⟩

variable (labels : PlaceLabels)

/-- A province is not empty. -/
theorem province?_ne : labels.province? ≠ some "" := or_ne (nonEmpty?_ne _) (nonEmpty?_ne _)

/-- A region is not empty. -/
theorem region?_ne : labels.region? ≠ some "" := or_ne (nonEmpty?_ne _) (nonEmpty?_ne _)

/-- A text under a key, if there is one. -/
def member (key : String) (text : Option String) : Members := (text.map fun s => (key, Json.string s)).toList

/-- Such a text stands under its key. -/
theorem fst_of_mem_member {key : String} {text : Option String} {m : String × Json} (h : m ∈ member key text) :
    m.1 = key := by
  obtain ⟨s, -, rfl⟩ := Option.map_eq_some_iff.mp (Option.mem_toList.mp h)
  rfl

/-- A text under a key that is greater than all the others is put at the end. -/
theorem ofList_append_member {pairs members : Members} {key : String} (hpairs : Members.ofList pairs = members)
    (h : ∀ m ∈ members, m.1 < key) (text : Option String) :
    Members.ofList (pairs ++ member key text) = members ++ member key text := by
  subst hpairs
  cases text with
  | none => simp [member]
  | some s => exact (Members.ofList_concat pairs key (.string s)).trans (Members.insert_of_forall_lt h)

/-- The labels are written in the order of their keys. -/
theorem toProperties_eq : labels.toProperties =
    member "country" (nonEmpty? labels.address.country) ++ ("name", .string labels.title) ::
      (member "province" labels.province? ++ member "region" labels.region?) := by
  rw [toProperties]
  generalize nonEmpty? labels.address.country = country
  generalize labels.province? = province
  generalize labels.region? = region
  generalize labels.title = title
  -- The country goes to the front, the other two behind all that is there.
  have hcountry : Members.ofList (("name", .string title) :: member "country" country) =
      member "country" country ++ [("name", .string title)] := by
    cases country with
    | none => rfl
    | some s =>
      change Members.insert "country" (.string s) [("name", .string title)] = _
      rw [Members.insert, if_pos (by decide)]
      rfl
  have hprovince : ∀ m ∈ member "country" country ++ [("name", .string title)], m.1 < "province" := by
    simp only [List.forall_mem_append, List.forall_mem_singleton]
    exact ⟨fun m hm => fst_of_mem_member hm ▸ by decide, by decide⟩
  have hregion : ∀ m ∈ member "country" country ++ [("name", .string title)] ++ member "province" province,
      m.1 < "region" := by
    simp only [List.forall_mem_append, List.forall_mem_singleton]
    exact ⟨⟨fun m hm => fst_of_mem_member hm ▸ by decide, by decide⟩, fun m hm => fst_of_mem_member hm ▸ by decide⟩
  refine (ofList_append_member (ofList_append_member hcountry hprovince province) hregion region).trans ?_
  simp only [List.append_assoc, List.cons_append, List.nil_append]

/-- A key has the text that was written under it. -/
theorem get?_toProperties :
    labels.toProperties.get? "name" = some (.string labels.title) ∧
      labels.toProperties.get? "country" = (nonEmpty? labels.address.country).map .string ∧
      labels.toProperties.get? "province" = labels.province?.map .string ∧
      labels.toProperties.get? "region" = labels.region?.map .string := by
  rw [toProperties_eq]
  cases nonEmpty? labels.address.country <;> cases labels.province? <;> cases labels.region? <;>
    simp [member, Members.get?_eq_head?]

end PlaceLabels

end AreaOfInterest
