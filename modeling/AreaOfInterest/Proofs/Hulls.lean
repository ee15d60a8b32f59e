import AreaOfInterest.Proofs.BoxCorners

/-!
# Hulls of extents

With exact scalars extents are ordered by what they hold: one is at most another when it lies within it. The extent that
is grown to hold another one is the join of the two. So the hull of several extents is the least extent that all of them
lie within, in whichever order they are taken.
-/

namespace AreaOfInterest.Extent

open Exact

variable {α : Type} [Scalar α] [Exact α]

/-- An extent is at most another one when it lies within it. -/
instance : PartialOrder (Extent α) where
  le e f := real f.minX ≤ real e.minX ∧ real f.minY ≤ real e.minY ∧ real e.maxX ≤ real f.maxX ∧
    real e.maxY ≤ real f.maxY
  le_refl _ := ⟨le_rfl, le_rfl, le_rfl, le_rfl⟩
  le_trans _ _ _ := by
    rintro ⟨west, south, east, north⟩ ⟨west', south', east', north'⟩
    exact ⟨west'.trans west, south'.trans south, east.trans east', north.trans north'⟩
  le_antisymm _ _ := by
    rintro ⟨west, south, east, north⟩ ⟨west', south', east', north'⟩
    exact eq_of_real (west'.antisymm west) (south'.antisymm south) (east.antisymm east') (north.antisymm north')

/-- An extent lies within another one limit by limit. -/
theorem le_def {e f : Extent α} :
    e ≤ f ↔ real f.minX ≤ real e.minX ∧ real f.minY ≤ real e.minY ∧ real e.maxX ≤ real f.maxX ∧
      real e.maxY ≤ real f.maxY := .rfl

variable [NumericOrder α]

/-- An extent is grown to the least one that holds another one as well. -/
instance : SemilatticeSup (Extent α) where
  sup := extend
  le_sup_left e f := by
    simp only [le_def, extend, real_min, real_max, min_le_left, le_max_left, and_self]
  le_sup_right e f := by
    simp only [le_def, extend, real_min, real_max, min_le_right, le_max_right, and_self]
  sup_le e f g := by
    simp only [le_def, extend, real_min, real_max]
    rintro ⟨west, south, east, north⟩ ⟨west', south', east', north'⟩
    exact ⟨le_min west west', le_min south south', max_le east east', max_le north north'⟩

variable {s : Set (Extent α)} {e x : Extent α} {es : List (Extent α)}

/-- Grown by several extents, the least extent around some becomes the least around all. -/
theorem isLUB_foldl_extend (h : IsLUB s e) (es : List (Extent α)) : IsLUB (s ∪ {f | f ∈ es}) (es.foldl extend e) := by
  induction es generalizing s e with
  | nil => simpa using h
  | cons f es ih =>
    have hgrown : IsLUB (s ∪ {f}) (e.extend f) := h.union isLUB_singleton
    have hall := ih hgrown
    have hset : s ∪ {f} ∪ {g | g ∈ es} = s ∪ {g | g ∈ f :: es} := by
      rw [Set.union_assoc]
      congr 1
      ext g
      simp
    rwa [hset] at hall

omit [Exact α] [NumericOrder α] in
/-- Only no extent has no hull. -/
theorem hull?_eq_none_iff : hull? es = none ↔ es = [] := by
  cases es with
  | nil => simp [hull?]
  | cons => simp [hull?]

/-- The hull of some extents is the least one that all of them lie within. -/
theorem hull?_eq_some_iff : hull? es = some x ↔ es ≠ [] ∧ IsLUB {e | e ∈ es} x := by
  cases es with
  | nil => simp [hull?]
  | cons e rest =>
    have hhull := isLUB_foldl_extend (isLUB_singleton (a := e)) rest
    have hset : {e} ∪ {f | f ∈ rest} = {f | f ∈ e :: rest} := by
      ext f
      simp
    rw [hset] at hhull
    rw [hull?, Option.some_inj, and_iff_right (List.cons_ne_nil _ _)]
    constructor
    · rintro rfl
      exact hhull
    · exact hhull.unique

end AreaOfInterest.Extent
