import AreaOfInterest.Proofs.Boxes
import AreaOfInterest.Proofs.Placements
import Mathlib.Data.Prod.Lex

/-!
# Recognising boxes by their corners

A ring is taken for a box when its first four points and the corners of its extent are equal, both sorted. Sorting goes
by one order and comparing by another, and the two part where values are equal as numbers and sorted apart. On doubles
these are the two zeros.

So a ring whose first four points are the corners of its extent, in any order and compared as numbers, is taken for a
box exactly when equal values are sorted in the order of the heights. On doubles this says that no corner at the
negative zero is above one at the positive zero.
-/

namespace AreaOfInterest

variable {α : Type} [Scalar α]

namespace Ring

/-- Five points, of which the first four are, in some order and as numbers, the corners of the extent of all. -/
def IsCornered (ring : Polyline α) : Prop :=
  ring.length = 5 ∧ ∃ e corners, Extent.ofCoords? ring = some e ∧ corners.Perm (ring.take 4) ∧
    corners == e.ring.take 4

/-- Of two positions above each other the lower one is sorted first, or like the upper one. -/
def SortsUpwards (l : List (Coord α)) : Prop :=
  ∀ c ∈ l, ∀ d ∈ l, c.x == d.x → c.y < d.y → Scalar.sortsBefore c.x d.x

omit [Scalar α] in
/-- What is equal to a list in another order is a list equal to it in another order. -/
theorem exists_perm_of_beq {β : Type} [BEq β] {l m m' : List β} (h : l == m) (perm : m.Perm m') :
    ∃ l', l'.Perm l ∧ l' == m' := by
  induction perm generalizing l with
  | nil => exact ⟨l, .refl l, h⟩
  | cons y _ ih =>
    cases l with
    | nil => cases h
    | cons x l =>
      rw [List.cons_beq_cons, Bool.and_eq_true] at h
      obtain ⟨l', hperm, hbeq⟩ := ih h.2
      exact ⟨x :: l', hperm.cons x, by rw [List.cons_beq_cons, h.1, hbeq]; rfl⟩
  | swap y y' m =>
    obtain _ | ⟨x, _ | ⟨x', l⟩⟩ := l
    · cases h
    · simp at h
    · simp only [List.cons_beq_cons, Bool.and_eq_true] at h
      obtain ⟨hx, hx', hl⟩ := h
      exact ⟨x' :: x :: l, .swap _ _ _, by simp only [List.cons_beq_cons, hx, hx', hl, Bool.and_self]⟩
  | trans _ _ ih ih' =>
    obtain ⟨l', hperm, hbeq⟩ := ih h
    obtain ⟨l'', hperm', hbeq'⟩ := ih' hbeq
    exact ⟨l'', hperm'.trans hperm, hbeq'⟩

end Ring

namespace Placement

variable [NumericOrder α] (p : Placement α)

/-- The point of the plane where a position is placed. -/
def point (c : Coord α) : ℝ × ℝ := (p.place c.x, p.place c.y)

/-- The point of a position, to be ordered by x and then by y. -/
def key (c : Coord α) : ℝ ×ₗ ℝ := toLex (p.point c)

/-- Positions given by numbers are equal when they are in the same place. -/
theorem coord_beq_iff {c d : Coord α} (hc : c.IsNumber) (hd : d.IsNumber) : c == d ↔ p.key c = p.key d := by
  rw [Coord.beq_iff, p.beq_iff hc.x hd.x, p.beq_iff hc.y hd.y, key, key, toLex_inj, point, point, Prod.mk.injEq]

/-- Lists of positions given by numbers are equal when they are in the same places. -/
theorem list_beq_iff {l m : List (Coord α)} (hl : ∀ c ∈ l, c.IsNumber) (hm : ∀ c ∈ m, c.IsNumber) :
    l == m ↔ l.map p.key = m.map p.key := by
  induction l generalizing m with
  | nil => cases m <;> simp
  | cons c l ih =>
    cases m with
    | nil => simp
    | cons d m =>
      obtain ⟨hc, hl⟩ := List.forall_mem_cons.mp hl
      obtain ⟨hd, hm⟩ := List.forall_mem_cons.mp hm
      rw [List.cons_beq_cons, Bool.and_eq_true, p.coord_beq_iff hc hd, ih hl hm, List.map_cons, List.map_cons,
        List.cons.injEq]

/-- Sorted positions are in the order of their places exactly when equal values of x are sorted upwards. -/
theorem pairwise_sorted_iff (sorted : ∀ x y, Scalar.sortsBefore x y → p.place x ≤ p.place y) {l : List (Coord α)}
    (numbers : ∀ c ∈ l, c.IsNumber) :
    ((Ring.sorted l).map p.key).Pairwise (· ≤ ·) ↔ Ring.SortsUpwards l := by
  have hmem {c : Coord α} : c ∈ Ring.sorted l ↔ c ∈ l := (Ring.perm_sorted l).mem_iff
  rw [List.pairwise_map]
  constructor
  · intro hkeys c hc d hd hx hy
    -- whichever of two positions comes first, it is sorted before the other one and not placed after it
    have horder : Ring.sortsBefore c d ∨ p.key d ≤ p.key c :=
      List.Pairwise.forall_of_forall_of_flip (R := fun a b => Ring.sortsBefore b a ∨ p.key a ≤ p.key b)
        (fun _ _ => .inr le_rfl) (hkeys.imp Or.inr) ((Ring.pairwise_sorted l).imp Or.inl) (hmem.mpr hd) (hmem.mpr hc)
    obtain hcd | hdc := horder
    · exact (Ring.sortsBefore_iff.mp hcd).1
    · rw [key, key, Prod.Lex.toLex_le_toLex] at hdc
      obtain hlt | ⟨-, hle⟩ := hdc
      · exact absurd (p.place_eq hx) hlt.ne'
      · exact absurd (p.place_lt hy) hle.not_gt
  · intro hupwards
    refine (Ring.pairwise_sorted l).imp_of_mem fun {c d} hc hd hcd => ?_
    obtain ⟨hx, hy⟩ := Ring.sortsBefore_iff.mp hcd
    have hc' := numbers c (hmem.mp hc)
    have hd' := numbers d (hmem.mp hd)
    rw [key, key, Prod.Lex.toLex_le_toLex]
    refine (sorted _ _ hx).lt_or_eq.imp_right fun heq => ⟨heq, le_of_not_gt fun hlt => ?_⟩
    have hsame : d.x == c.x := (p.beq_iff hd'.x hc'.x).mpr heq.symm
    have hback := hupwards d (hmem.mp hd) c (hmem.mp hc) hsame ((p.lt_iff hd'.y hc'.y).mpr hlt)
    exact absurd (sorted _ _ (hy hback)) hlt.not_ge

end Placement

namespace Extent

variable [NumericOrder α]

/-- The limits of an extent on one axis are numbers, and one value or in order. -/
structure IsRange (p : Placement α) (lo hi : α) : Prop where
  lower : lo == lo
  upper : hi == hi
  ordered : lo = hi ∨ p.place lo < p.place hi

variable {p : Placement α}

/-- Limits that are widened by a number are limits again. -/
theorem IsRange.widen {lo hi x : α} (h : IsRange p lo hi) (hx : x == x) : IsRange p (min lo x) (max hi x) := by
  have hle : p.place lo ≤ p.place hi := h.ordered.elim (fun heq => (congrArg p.place heq).le) le_of_lt
  rw [NumericOrder.min_eq h.lower hx, NumericOrder.max_eq h.upper hx]
  split
  · next hlo =>
    have hhi : ¬ hi < x := fun hhi => absurd (p.place_lt hhi) ((p.place_lt hlo).trans_le hle).asymm
    rw [if_neg hhi]
    exact ⟨hx, h.upper, .inr ((p.place_lt hlo).trans_le hle)⟩
  · split
    · next hhi => exact ⟨h.lower, hx, .inr (hle.trans_lt (p.place_lt hhi))⟩
    · exact h

/-- The extent of positions that are given by numbers has limits on each axis. -/
theorem isRange_of_ofCoords? {l : List (Coord α)} {e : Extent α} (numbers : ∀ c ∈ l, c.IsNumber)
    (hull : ofCoords? l = some e) : IsRange p e.minX e.maxX ∧ IsRange p e.minY e.maxY := by
  cases l with
  | nil => cases hull
  | cons c rest =>
    obtain ⟨hc, hrest⟩ := List.forall_mem_cons.mp numbers
    cases hull
    have hfirst : IsRange p (ofCoord c).minX (ofCoord c).maxX ∧ IsRange p (ofCoord c).minY (ofCoord c).maxY :=
      ⟨⟨hc.x, hc.x, .inl rfl⟩, ⟨hc.y, hc.y, .inl rfl⟩⟩
    generalize ofCoord c = e at hfirst
    clear numbers hc
    induction rest generalizing e with
    | nil => exact hfirst
    | cons d rest ih =>
      obtain ⟨hd, hrest⟩ := List.forall_mem_cons.mp hrest
      exact ih hrest (e.insert d) ⟨hfirst.1.widen hd.x, hfirst.2.widen hd.y⟩

omit [NumericOrder α] in
/-- The corners of an extent with limits are given by numbers. -/
theorem corners_isNumber {e : Extent α} (x : IsRange p e.minX e.maxX) (y : IsRange p e.minY e.maxY) :
    ∀ c ∈ e.ring.take 4, c.IsNumber := by
  intro c hc
  obtain ⟨hx, hy⟩ := limits_of_mem_corners hc
  exact ⟨number_of_limits x.lower x.upper hx, number_of_limits y.lower y.upper hy⟩

/-- The corners of an extent with limits are sorted upwards, since its sides are one value or apart. -/
theorem corners_sortsUpwards {e : Extent α} (x : IsRange p e.minX e.maxX) : Ring.SortsUpwards (e.ring.take 4) := by
  intro c hc d hd hsame _
  have hplace := p.place_eq hsame
  have hcd : c.x = d.x := by
    obtain hside | hside := x.ordered
    · obtain hcx | hcx := (limits_of_mem_corners hc).1 <;> obtain hdx | hdx := (limits_of_mem_corners hd).1 <;>
        simp only [hcx, hdx, hside]
    · obtain hcx | hcx := (limits_of_mem_corners hc).1 <;> obtain hdx | hdx := (limits_of_mem_corners hd).1 <;>
        rw [hcx, hdx] at hplace ⊢
      · exact absurd hplace hside.ne
      · exact absurd hplace hside.ne'
  rw [hcd]
  exact NumericOrder.sortsBefore_self d.x

end Extent

namespace Ring

/-- A ring of numbers is taken for a box exactly when it has the corners of its extent and they are sorted upwards. -/
theorem isBox_iff_isCornered [SortedInPlace α] {ring : Polyline α} (numbers : ∀ c ∈ ring, c.IsNumber) :
    isBox ring ↔ IsCornered ring ∧ SortsUpwards (ring.take 4) := by
  obtain ⟨p, hsorted⟩ := SortedInPlace.exists_placement (α := α)
  cases hhull : Extent.ofCoords? ring with
  | none => simp [isBox, IsCornered, hhull]
  | some e =>
    have hbox : isBox ring ↔ ring.length = 5 ∧ sorted (ring.take 4) == sorted (e.ring.take 4) := by
      simp [isBox, hhull]
    obtain ⟨hx, hy⟩ := Extent.isRange_of_ofCoords? (p := p) numbers hhull
    have hcorners := Extent.corners_isNumber hx hy
    have hpoints : ∀ c ∈ ring.take 4, c.IsNumber := fun c hc => numbers c (List.mem_of_mem_take hc)
    have hplaces : sorted (ring.take 4) == sorted (e.ring.take 4) ↔
        (sorted (ring.take 4)).map p.key = (sorted (e.ring.take 4)).map p.key :=
      p.list_beq_iff (fun c hc => hpoints c ((perm_sorted _).mem_iff.mp hc))
        (fun c hc => hcorners c ((perm_sorted _).mem_iff.mp hc))
    have hordered := (p.pairwise_sorted_iff hsorted hcorners).mpr (Extent.corners_sortsUpwards hx)
    rw [hbox]
    constructor
    · rintro ⟨hlength, hsame⟩
      obtain ⟨corners, hperm, hbeq⟩ := exists_perm_of_beq hsame (perm_sorted _)
      refine ⟨⟨hlength, e, corners, hhull, hperm.trans (perm_sorted _), hbeq⟩, ?_⟩
      rw [← p.pairwise_sorted_iff hsorted hpoints, hplaces.mp hsame]
      exact hordered
    · rintro ⟨⟨hlength, e', corners, hhull', hperm, hbeq⟩, hupwards⟩
      cases hhull.symm.trans hhull'
      have hsame : corners.map p.key = (e.ring.take 4).map p.key :=
        (p.list_beq_iff (fun c hc => hpoints c (hperm.mem_iff.mp hc)) hcorners).mp hbeq
      have hkeys : ((sorted (ring.take 4)).map p.key).Perm ((sorted (e.ring.take 4)).map p.key) :=
        calc
          ((sorted (ring.take 4)).map p.key).Perm ((ring.take 4).map p.key) := (perm_sorted _).map _
          List.Perm _ (corners.map p.key) := (hperm.map _).symm
          List.Perm _ ((e.ring.take 4).map p.key) := .of_eq hsame
          List.Perm _ ((sorted (e.ring.take 4)).map p.key) := ((perm_sorted _).map _).symm
      refine ⟨hlength, hplaces.mpr ?_⟩
      exact List.Perm.eq_of_pairwise (fun _ _ _ _ => le_antisymm)
        ((p.pairwise_sorted_iff hsorted hpoints).mpr hupwards) hordered hkeys

/-- On doubles, equal values are sorted upwards unless a corner at the negative zero is above one at the positive
zero. -/
theorem sortsUpwards_iff {l : List (Coord Float)} :
    SortsUpwards l ↔ ¬ ∃ c ∈ l, ∃ d ∈ l, c.x = 0.0 ∧ d.x = -0.0 ∧ c.y < d.y := by
  have hzeros : (0.0 : Float) == -0.0 := by decide +kernel
  have hfirst : Scalar.sortsBefore (-0.0 : Float) 0.0 := by decide +kernel
  have hlast : ¬ Scalar.sortsBefore (0.0 : Float) (-0.0) := by decide +kernel
  constructor
  · rintro hupwards ⟨c, hc, d, hd, hcx, hdx, hy⟩
    refine hlast ?_
    have hsorted := hupwards c hc d hd
    rw [hcx, hdx] at hsorted
    exact hsorted hzeros hy
  · intro hnone c hc d hd hx hy
    obtain heq | ⟨hcx, hdx⟩ | ⟨hcx, hdx⟩ := Double.eq_or_zeros_of_beq hx
    · rw [heq]
      exact NumericOrder.sortsBefore_self d.x
    · exact absurd ⟨c, hc, d, hd, hcx, hdx, hy⟩ hnone
    · rw [hcx, hdx]
      exact hfirst

/-- A ring of doubles is taken for a box exactly when its first four points are, in any order and as numbers, the
corners of its extent, and no corner at the negative zero is above one at the positive zero. -/
theorem isBox_iff_of_doubles {ring : Polyline Float} (numbers : ∀ c ∈ ring, c.IsNumber) :
    isBox ring ↔
      IsCornered ring ∧ ¬ ∃ c ∈ ring.take 4, ∃ d ∈ ring.take 4, c.x = 0.0 ∧ d.x = -0.0 ∧ c.y < d.y := by
  rw [isBox_iff_isCornered numbers, sortsUpwards_iff]

/-- A square with its left side at the negative zero below and at the positive zero above. -/
def zerosUpwards : Polyline Float := [⟨-0.0, 0.0⟩, ⟨0.0, 10.0⟩, ⟨10.0, 10.0⟩, ⟨10.0, 0.0⟩, ⟨0.0, 0.0⟩]

/-- It is taken for a box, and it is one. -/
theorem isBox_zerosUpwards :
    isBox zerosUpwards ∧ (∀ c ∈ zerosUpwards, c.IsNumber) ∧ IsCornered zerosUpwards := by
  have numbers : ∀ c ∈ zerosUpwards, c.IsNumber := by
    have hself : zerosUpwards.all fun c => c.x == c.x && c.y == c.y := by decide +kernel
    intro c hc
    have hboth := List.all_eq_true.mp hself c hc
    rw [Bool.and_eq_true] at hboth
    exact ⟨hboth.1, hboth.2⟩
  have hbox : isBox zerosUpwards := by decide +kernel
  exact ⟨hbox, numbers, ((isBox_iff_of_doubles numbers).mp hbox).1⟩

/-- A square with its left side at the positive zero below and at the negative zero above. -/
def zerosDownwards : Polyline Float := [⟨0.0, 0.0⟩, ⟨-0.0, 10.0⟩, ⟨10.0, 10.0⟩, ⟨10.0, 0.0⟩, ⟨0.0, 0.0⟩]

/-- Its first four points are the corners of its extent, but it is not taken for a box. -/
theorem not_isBox_zerosDownwards :
    (∀ c ∈ zerosDownwards, c.IsFinite) ∧ IsCornered zerosDownwards ∧ ¬ isBox zerosDownwards := by
  have hfinite : zerosDownwards.all fun c => Scalar.isFinite c.x && Scalar.isFinite c.y := by decide +kernel
  refine ⟨fun c hc => ?_, ⟨rfl, ⟨0.0, 0.0, 10.0, 10.0⟩, zerosDownwards.take 4, ?_, .refl _, ?_⟩, ?_⟩
  · have hboth := List.all_eq_true.mp hfinite c hc
    rw [Bool.and_eq_true] at hboth
    exact ⟨hboth.1, hboth.2⟩
  · decide +kernel
  · decide +kernel
  · decide +kernel

end Ring

end AreaOfInterest
