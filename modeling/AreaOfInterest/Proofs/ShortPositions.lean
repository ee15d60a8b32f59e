import AreaOfInterest.Proofs.Positions

/-!
# Positions that are too short

A geometry is read position by position, in the order of the document: the exterior ring before the holes, members from
left to right, each with all that it holds before the next. The one thing that can go wrong is a position with fewer than
two ordinates. Reading stops at the first of these, however deep it is nested, and says how many ordinates that one has.
-/

namespace AreaOfInterest

variable {α β γ : Type}

namespace Position

/-- The first position with fewer than two ordinates. -/
def firstShort? (positions : List (Position α)) : Option (Position α) := positions.find? (·.length < 2)

/-- What reading some positions in order comes to: something when none of them is short, and otherwise a failure that
tells the length of the first short one. -/
inductive Reads (positions : List (Position α)) : Except (Failure α) γ → Prop where
  | ok (none : firstShort? positions = none) (value : γ) : Reads positions (.ok value)
  | error {p : Position α} (first : firstShort? positions = some p) :
    Reads positions (.error (.invalidPosition p.length))

variable {positions further : List (Position α)}

/-- The first short position has none before it. -/
theorem firstShort?_eq_some_iff {p : Position α} :
    firstShort? positions = some p ↔
      ∃ before after, positions = before ++ p :: after ∧ (∀ q ∈ before, 2 ≤ q.length) ∧ p.length < 2 := by
  simp only [firstShort?, List.find?_eq_some_iff_append, decide_eq_true_eq, Bool.not_eq_true', decide_eq_false_iff_not,
    Nat.not_lt]
  constructor
  · rintro ⟨short, before, after, rfl, long⟩
    exact ⟨before, after, rfl, long, short⟩
  · rintro ⟨before, after, rfl, long, short⟩
    exact ⟨short, before, after, rfl, long⟩

/-- There is a first short position when there is one. -/
theorem exists_firstShort?_iff : (∃ p, firstShort? positions = some p) ↔ ∃ p ∈ positions, p.length < 2 := by
  rw [← Option.isSome_iff_exists, firstShort?, List.find?_isSome]
  simp only [decide_eq_true_eq]

/-- A short position stays the first one, whatever comes after. -/
theorem firstShort?_append_of_some {p : Position α} (h : firstShort? positions = some p) :
    firstShort? (positions ++ further) = some p := by
  rw [firstShort?, List.find?_append, ← firstShort?, h, Option.some_or]

/-- With no short position before it, it is the first one as well. -/
theorem firstShort?_append_of_none (h : firstShort? positions = none) :
    firstShort? (positions ++ further) = firstShort? further := by
  rw [firstShort?, List.find?_append, ← firstShort?, h, Option.none_or, firstShort?]

namespace Reads

/-- Nothing need be read for a value that is there. -/
theorem pure (value : γ) : Reads ([] : List (Position α)) (.ok value) := .ok rfl value

/-- Of two steps of reading the second is only taken when the first did not fail. -/
theorem bind {x : Except (Failure α) β} {f : β → Except (Failure α) γ} (h : Reads positions x)
    (h' : ∀ value, Reads further (f value)) : Reads (positions ++ further) (x >>= f) := by
  cases h with
  | error first => exact .error (firstShort?_append_of_some first)
  | ok none value =>
    have hsecond := h' value
    change Reads _ (f value)
    generalize f value = result at hsecond
    cases hsecond with
    | ok none' value' => exact .ok ((firstShort?_append_of_none none).trans none') value'
    | error first => exact .error ((firstShort?_append_of_none none).trans first)

/-- Whatever is made of a value, no further position is read for it. -/
theorem map {x : Except (Failure α) β} (h : Reads positions x) (f : β → γ) :
    Reads positions (x >>= fun value => .ok (f value)) := by
  rw [← List.append_nil positions]
  exact h.bind fun value => .pure (f value)

/-- Several values are read one after another. -/
theorem mapM {read : β → Except (Failure α) γ} {parts : β → List (Position α)} (h : ∀ x, Reads (parts x) (read x))
    (xs : List β) : Reads (xs.flatMap parts) (xs.mapM read) := by
  induction xs with
  | nil => exact .pure []
  | cons x rest ih =>
    rw [List.flatMap_cons, List.mapM_cons]
    exact (h x).bind fun value => ih.map (value :: ·)

/-- Reading fails when there is a short position, and then with the length of the first one. -/
theorem eq_error_iff {x : Except (Failure α) γ} (h : Reads positions x) {failure : Failure α} :
    x = .error failure ↔ ∃ p, firstShort? positions = some p ∧ failure = .invalidPosition p.length := by
  cases h with
  | ok none value => simp [none]
  | error first => simp [first, eq_comm]

end Reads

/-- A position is read by its own length. -/
theorem reads_toCoord (p : Position α) : Reads [p] p.toCoord := by
  match p with
  | [] | [_] => exact .error rfl
  | _ :: _ :: _ => exact .ok rfl _

/-- A line is read from its start to its end. -/
theorem reads_toPolyline (line : List (Position α)) : Reads line (toPolyline line) := by
  have h := Reads.mapM reads_toCoord line
  rwa [List.flatMap_singleton'] at h

/-- The exterior of a polygon is read before its holes. -/
theorem reads_toPolygon [BEq α] (rings : List (List (Position α))) : Reads (rings.flatMap id) (toPolygon rings) := by
  match rings with
  | [] => exact .pure _
  | exterior :: interiors =>
    exact (reads_toPolyline exterior).bind fun ring =>
      (Reads.mapM reads_toPolyline interiors).map (Polygon.ofRings ring)

end Position

namespace Geometry

variable [BEq α]

open Position

mutual

/-- The positions of a geometry are read in their order. -/
theorem reads_toShape : ∀ g : Geometry α, Reads g.positions g.toShape
  | .point p => (reads_toCoord p).map Shape.point
  | .multiPoint ps => (reads_toPolyline ps).map Shape.multiPoint
  | .lineString ps => (reads_toPolyline ps).map Shape.polyline
  | .multiLineString ls => (Reads.mapM reads_toPolyline ls).map Shape.multiPolyline
  | .polygon rs => (reads_toPolygon rs).map Shape.polygon
  | .multiPolygon ps => (Reads.mapM reads_toPolygon ps).map Shape.multiPolygon
  | .collection members => (reads_eachToShape members).map Shape.collection

/-- The positions of several geometries are read in their order. -/
theorem reads_eachToShape : ∀ gs : List (Geometry α), Reads (positionsOfEach gs) (eachToShape gs)
  | [] => .pure []
  | g :: rest => (reads_toShape g).bind fun shape => (reads_eachToShape rest).map (shape :: ·)

end

/-- A geometry cannot be read exactly when some position in it has fewer than two ordinates. The failure tells the length
of the first such position in the order of the document. -/
theorem toShape_fails_iff (g : Geometry α) :
    ((∃ failure, g.toShape = .error failure) ↔ ∃ p ∈ g.positions, p.length < 2) ∧
      ∀ failure, g.toShape = .error failure ↔
        ∃ p before after, g.positions = before ++ p :: after ∧ (∀ q ∈ before, 2 ≤ q.length) ∧ p.length < 2 ∧
          failure = .invalidPosition p.length := by
  have hfails {failure : Failure α} : g.toShape = .error failure ↔
      ∃ p, firstShort? g.positions = some p ∧ failure = .invalidPosition p.length := (reads_toShape g).eq_error_iff
  refine ⟨?_, fun failure => ?_⟩
  · rw [← exists_firstShort?_iff]
    constructor
    · rintro ⟨failure, h⟩
      obtain ⟨p, hp, -⟩ := hfails.mp h
      exact ⟨p, hp⟩
    · rintro ⟨p, hp⟩
      exact ⟨_, hfails.mpr ⟨p, hp, rfl⟩⟩
  · simp only [hfails, firstShort?_eq_some_iff]
    constructor
    · rintro ⟨p, ⟨before, after, split, long, short⟩, rfl⟩
      exact ⟨p, before, after, split, long, short, rfl⟩
    · rintro ⟨p, before, after, split, long, short, rfl⟩
      exact ⟨p, ⟨before, after, split, long, short⟩, rfl⟩

/-- Of two short positions the one in the hole comes before the one in the next member. -/
example : (collection [.polygon [[[0, 0], [4, 0], [4, 4]], [[1, 1], []]], .point [7]] : Geometry Nat).toShape =
    .error (.invalidPosition 0) := rfl

end Geometry

end AreaOfInterest
