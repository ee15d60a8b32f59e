import AreaOfInterest.Proofs.NumericOrder
import AreaOfInterest.Proofs.Vertices
import Mathlib.Data.List.Sort

/-!
# Rings around boxes

The ring of an extent whose limits may be in either order, which is what becomes of a box when its two axes are changed
separately. It is recognised as a box as long as its limits are numbers and its two sides, if they are in the same
place, are the same value. The two zeros of doubles are in the same place, but are not sorted alike.

A box of which a corner is dragged onto a number is one again, because a move that leaves no area is refused.
-/

namespace AreaOfInterest

variable {α : Type} [Scalar α]

/-- A position is given by numbers. -/
structure Coord.IsNumber (c : Coord α) : Prop where
  x : c.x == c.x
  y : c.y == c.y

omit [Scalar α] in
/-- Positions are equal when they are on both axes. -/
theorem Coord.beq_iff [BEq α] {c d : Coord α} : c == d ↔ c.x == d.x ∧ c.y == d.y := by
  cases c
  cases d
  exact Bool.and_eq_true_iff

namespace Ring

/-- Lists are equal when their members are, each with each. -/
theorem beq_of_forall {β : Type} [BEq β] {l m : List β} (length : l.length = m.length)
    (h : ∀ x ∈ l, ∀ y ∈ m, x == y) : l == m := by
  induction l generalizing m with
  | nil => cases m with
    | nil => rfl
    | cons => cases length
  | cons x l ih =>
    cases m with
    | nil => cases length
    | cons y m =>
      rw [List.cons_beq_cons, Bool.and_eq_true]
      refine ⟨h x List.mem_cons_self y List.mem_cons_self, ih (Nat.succ.inj length) fun x' hx' y' hy' => ?_⟩
      exact h x' (List.mem_cons_of_mem _ hx') y' (List.mem_cons_of_mem _ hy')

/-- A list equals itself when its members do. -/
theorem beq_self {β : Type} [BEq β] {l : List β} (h : ∀ x ∈ l, x == x) : l == l := by
  induction l with
  | nil => rfl
  | cons x l ih =>
    obtain ⟨hx, hl⟩ := List.forall_mem_cons.mp h
    rw [List.cons_beq_cons, Bool.and_eq_true]
    exact ⟨hx, ih hl⟩

/-- Lists of positions are equal when they are on both axes. -/
theorem beq_iff_axes {l m : List (Coord α)} :
    l == m ↔ l.map (·.x) == m.map (·.x) ∧ l.map (·.y) == m.map (·.y) := by
  induction l generalizing m with
  | nil => cases m <;> simp
  | cons c l ih =>
    cases m with
    | nil => simp
    | cons d m =>
      simp only [List.map_cons, List.cons_beq_cons, Bool.and_eq_true, Coord.beq_iff, ih]
      tauto

/-- Each member of a list equals something when the list does. -/
theorem exists_beq_of_beq {β : Type} [BEq β] {l m : List β} (h : l == m) : ∀ x ∈ l, ∃ y, x == y := by
  induction l generalizing m with
  | nil => simp
  | cons x l ih =>
    cases m with
    | nil => cases h
    | cons y m =>
      rw [List.cons_beq_cons, Bool.and_eq_true] at h
      exact List.forall_mem_cons.mpr ⟨⟨y, h.1⟩, ih h.2⟩

/-- The rings are sorted by insertion. -/
theorem sorted_eq (l : List (Coord α)) : sorted l = l.insertionSort (sortsBefore · ·) := by
  have hinsert (c : Coord α) (m : List (Coord α)) : insertSorted c m = m.orderedInsert (sortsBefore · ·) c := by
    induction m with
    | nil => rfl
    | cons d m ih => rw [insertSorted, List.orderedInsert, ih]
  induction l with
  | nil => rfl
  | cons c l ih => rw [sorted, ih, hinsert, List.insertionSort_cons]

/-- Sorting changes the order alone. -/
theorem perm_sorted (l : List (Coord α)) : (sorted l).Perm l := by
  rw [sorted_eq]
  exact List.perm_insertionSort _ l

variable [NumericOrder α]

/-- Positions are sorted by x, then by y. -/
theorem sortsBefore_iff {c d : Coord α} :
    sortsBefore c d ↔ Scalar.sortsBefore c.x d.x ∧ (Scalar.sortsBefore d.x c.x → Scalar.sortsBefore c.y d.y) := by
  have htotal := NumericOrder.sortsBefore_total c.x d.x
  unfold sortsBefore
  split
  · simp_all
  · split <;> simp_all

instance : Std.Total fun c d : Coord α => (sortsBefore c d : Prop) where
  total c d := by
    have hx := NumericOrder.sortsBefore_total c.x d.x
    have hy := NumericOrder.sortsBefore_total c.y d.y
    rw [sortsBefore_iff, sortsBefore_iff]
    tauto

instance : IsTrans (Coord α) fun c d => (sortsBefore c d : Prop) where
  trans a b c hab hbc := by
    rw [sortsBefore_iff] at hab hbc ⊢
    refine ⟨NumericOrder.sortsBefore_trans hab.1 hbc.1, fun hca => ?_⟩
    have hba := NumericOrder.sortsBefore_trans hbc.1 hca
    have hcb := NumericOrder.sortsBefore_trans hca hab.1
    exact NumericOrder.sortsBefore_trans (hab.2 hba) (hbc.2 hcb)

/-- Two positions that are sorted before each other are the same. -/
theorem sortsBefore_antisymm {c d : Coord α} (h : sortsBefore c d) (h' : sortsBefore d c) : c = d := by
  rw [sortsBefore_iff] at h h'
  obtain ⟨x, y⟩ := c
  obtain ⟨x', y'⟩ := d
  cases NumericOrder.sortsBefore_antisymm h.1 h'.1
  cases NumericOrder.sortsBefore_antisymm (h.2 h'.1) (h'.2 h.1)
  rfl

/-- Positions are sorted. -/
theorem pairwise_sorted (l : List (Coord α)) : (sorted l).Pairwise (sortsBefore · ·) := by
  rw [sorted_eq]
  exact List.pairwise_insertionSort _ l

/-- The same positions are sorted in the same way. -/
theorem sorted_eq_of_perm {l m : List (Coord α)} (h : l.Perm m) : sorted l = sorted m := by
  refine List.Perm.eq_of_pairwise (fun _ _ _ _ => sortsBefore_antisymm) (pairwise_sorted l) (pairwise_sorted m) ?_
  exact ((perm_sorted l).trans h).trans (perm_sorted m).symm

/-- Of the same values of x the sorted positions have the same ones in each place. -/
theorem map_sorted_eq_of_perm {l m : List (Coord α)} (h : (l.map (·.x)).Perm (m.map (·.x))) :
    (sorted l).map (·.x) = (sorted m).map (·.x) := by
  have hsorted (l : List (Coord α)) : ((sorted l).map (·.x)).Pairwise fun x y => (Scalar.sortsBefore x y : Prop) :=
    List.pairwise_map.mpr ((pairwise_sorted l).imp fun h => (sortsBefore_iff.mp h).1)
  refine List.Perm.eq_of_pairwise (fun _ _ _ _ => NumericOrder.sortsBefore_antisymm) (hsorted l) (hsorted m) ?_
  exact (((perm_sorted l).map _).trans h).trans ((perm_sorted m).map _).symm

end Ring

namespace Extent

variable {e : Extent α}

/-- The extent whose limits on each axis are in order. -/
def inOrder (e : Extent α) : Extent α :=
  ⟨min e.minX e.maxX, min e.minY e.maxY, max e.minX e.maxX, max e.minY e.maxY⟩

/-- The limits of an extent, in whichever order, are numbers, and if its sides are in the same place they are the same
value, or the extent is a point. -/
structure IsSound (e : Extent α) : Prop where
  lower : (⟨e.minX, e.minY⟩ : Coord α).IsNumber
  upper : (⟨e.maxX, e.maxY⟩ : Coord α).IsNumber
  sides : e.minX == e.maxX → e.minX = e.maxX ∨ e.minY == e.maxY

/-- The extent with each axis changed by itself. -/
def mapAxes (f g : α → α) (e : Extent α) : Extent α := ⟨f e.minX, g e.minY, f e.maxX, g e.maxY⟩

variable [NumericOrder α]

/-- The smaller of two numbers is one of them. -/
theorem min_eq_or {x y : α} (hx : x == x) (hy : y == y) : min x y = x ∨ min x y = y := by
  rw [NumericOrder.min_eq hx hy]
  split <;> simp

/-- The larger of two numbers is one of them. -/
theorem max_eq_or {x y : α} (hx : x == x) (hy : y == y) : max x y = x ∨ max x y = y := by
  rw [NumericOrder.max_eq hx hy]
  split <;> simp

/-- On the way around an extent the smallest value of an axis is the smaller limit. -/
theorem min_around {x y : α} (hx : x == x) (hy : y == y) :
    min (min (min (min x x) y) y) x = min x y ∧ min (min (min (min x y) y) x) x = min x y := by
  have hxx : min x x = x := by rw [NumericOrder.min_eq hx hx, ite_self]
  have hyy : min y y = y := by rw [NumericOrder.min_eq hy hy, ite_self]
  by_cases hlt : y < x
  · have hxy : min x y = y := by rw [NumericOrder.min_eq hx hy, if_pos hlt]
    have hyx : min y x = y := by rw [NumericOrder.min_eq hy hx, if_neg (NumericOrder.lt_asymm hlt)]
    simp only [hxx, hxy, hyy, hyx, and_self]
  · have hxy : min x y = x := by rw [NumericOrder.min_eq hx hy, if_neg hlt]
    simp only [hxx, hxy, and_self]

/-- On the way around an extent the largest value of an axis is the larger limit. -/
theorem max_around {x y : α} (hx : x == x) (hy : y == y) :
    max (max (max (max x x) y) y) x = max x y ∧ max (max (max (max x y) y) x) x = max x y := by
  have hxx : max x x = x := by rw [NumericOrder.max_eq hx hx, ite_self]
  have hyy : max y y = y := by rw [NumericOrder.max_eq hy hy, ite_self]
  by_cases hlt : x < y
  · have hxy : max x y = y := by rw [NumericOrder.max_eq hx hy, if_pos hlt]
    have hyx : max y x = y := by rw [NumericOrder.max_eq hy hx, if_neg (NumericOrder.lt_asymm hlt)]
    simp only [hxx, hxy, hyy, hyx, and_self]
  · have hxy : max x y = x := by rw [NumericOrder.max_eq hx hy, if_neg hlt]
    simp only [hxx, hxy, and_self]

/-- The extent of the ring around an extent has its limits, in order. -/
theorem ofCoords?_ring (lower : (⟨e.minX, e.minY⟩ : Coord α).IsNumber) (upper : (⟨e.maxX, e.maxY⟩ : Coord α).IsNumber) :
    ofCoords? e.ring = some e.inOrder := by
  simp only [ofCoords?, ring, List.foldl_cons, List.foldl_nil, insert, ofCoord, inOrder,
    (min_around lower.x upper.x).1, (min_around lower.y upper.y).2, (max_around lower.x upper.x).1,
    (max_around lower.y upper.y).2]

/-- Limits that are the same if they are in the same place are those of the ordered extent, kept or exchanged. -/
theorem limits_cases {x y : α} (hx : x == x) (hy : y == y) (h : x == y → x = y) :
    min x y = x ∧ max x y = y ∨ min x y = y ∧ max x y = x := by
  rw [NumericOrder.min_eq hx hy, NumericOrder.max_eq hx hy]
  obtain hlt | heq | hlt := NumericOrder.lt_or_beq_or_lt hx hy
  · exact .inl ⟨if_neg (NumericOrder.lt_asymm hlt), if_pos hlt⟩
  · cases h heq
    exact .inl ⟨ite_self _, ite_self _⟩
  · exact .inr ⟨if_pos hlt, if_neg (NumericOrder.lt_asymm hlt)⟩

/-- Of two equal numbers the first one is both the smaller and the larger. -/
theorem limits_of_beq {x y : α} (h : x == y) : min x y = x ∧ max x y = x := by
  have h' : y == x := by rwa [NumericOrder.beq_comm]
  have hx := NumericOrder.number_of_beq h
  have hy := NumericOrder.number_of_beq h'
  rw [NumericOrder.min_eq hx hy, NumericOrder.max_eq hx hy]
  exact ⟨if_neg fun hlt => NumericOrder.not_beq_of_lt hlt h', if_neg fun hlt => NumericOrder.not_beq_of_lt hlt h⟩

/-- The ring around an extent is a box when its corners, sorted, are those of the ordered extent. -/
theorem isBox_ring_eq (lower : (⟨e.minX, e.minY⟩ : Coord α).IsNumber) (upper : (⟨e.maxX, e.maxY⟩ : Coord α).IsNumber) :
    Ring.isBox e.ring = (Ring.sorted (e.ring.take 4) == Ring.sorted (e.inOrder.ring.take 4)) := by
  simp only [Ring.isBox, ofCoords?_ring lower upper]
  rfl

omit [Scalar α] [NumericOrder α] in
/-- Exchanging the limits on an axis leaves an extent its corners. -/
theorem perm_corners {l b r t l' b' r' t' : α} (hx : l' = l ∧ r' = r ∨ l' = r ∧ r' = l)
    (hy : b' = b ∧ t' = t ∨ b' = t ∧ t' = b) :
    ((⟨l, b, r, t⟩ : Extent α).ring.take 4).Perm ((⟨l', b', r', t'⟩ : Extent α).ring.take 4) := by
  obtain ⟨rfl, rfl⟩ | ⟨rfl, rfl⟩ := hx <;> obtain ⟨rfl, rfl⟩ | ⟨rfl, rfl⟩ := hy <;> simp only [ring, List.take]
  · rfl
  · exact (List.Perm.swap _ _ _).trans (.cons _ (.cons _ (.swap _ _ _)))
  · exact (List.reverse_perm _).symm
  · exact @List.perm_append_comm _ [_, _] [_, _]

/-- The sides of an extent are those of the ordered one, if they are not two values in the same place. -/
theorem perm_sides (hx : e.minX == e.minX) (hx' : e.maxX == e.maxX) (h : e.minX == e.maxX → e.minX = e.maxX) :
    ((e.ring.take 4).map (·.x)).Perm ((e.inOrder.ring.take 4).map (·.x)) := by
  obtain ⟨hmin, hmax⟩ | ⟨hmin, hmax⟩ := limits_cases hx hx' h <;>
  simp only [inOrder, ring, List.take, List.map, hmin, hmax]
  · rfl
  · exact @List.perm_append_comm _ [_, _] [_, _]

omit [Scalar α] [NumericOrder α] in
/-- The corners of an extent have its limits. -/
theorem limits_of_mem_corners {c : Coord α} (h : c ∈ e.ring.take 4) :
    (c.x = e.minX ∨ c.x = e.maxX) ∧ (c.y = e.minY ∨ c.y = e.maxY) := by
  simp only [ring, List.take, List.mem_cons, List.not_mem_nil, or_false] at h
  obtain rfl | rfl | rfl | rfl := h <;> simp

/-- The corners of the ordered extent have the limits of the extent. -/
theorem limits_of_mem_inOrder (lower : (⟨e.minX, e.minY⟩ : Coord α).IsNumber)
    (upper : (⟨e.maxX, e.maxY⟩ : Coord α).IsNumber) {c : Coord α} (h : c ∈ e.inOrder.ring.take 4) :
    (c.x = e.minX ∨ c.x = e.maxX) ∧ (c.y = e.minY ∨ c.y = e.maxY) := by
  obtain ⟨hx, hy⟩ := limits_of_mem_corners h
  have hminX := min_eq_or lower.x upper.x
  have hmaxX := max_eq_or lower.x upper.x
  have hminY := min_eq_or lower.y upper.y
  have hmaxY := max_eq_or lower.y upper.y
  simp only [inOrder] at hx hy
  constructor
  · obtain hx | hx := hx <;> rw [hx] <;> assumption
  · obtain hy | hy := hy <;> rw [hy] <;> assumption

/-- Values that are one of two equal numbers are equal. -/
theorem beq_of_limits {x y c d : α} (h : x == y) (hc : c = x ∨ c = y) (hd : d = x ∨ d = y) : c == d := by
  have h' : y == x := by rwa [NumericOrder.beq_comm]
  obtain rfl | rfl := hc <;> obtain rfl | rfl := hd
  · exact NumericOrder.number_of_beq h
  · exact h
  · exact h'
  · exact NumericOrder.number_of_beq h'

omit [NumericOrder α] in
/-- The corners of two extents, sorted, are equally many. -/
theorem length_sorted_corners {β : Type} (f : Coord α → β) (e e' : Extent α) :
    ((Ring.sorted (e.ring.take 4)).map f).length = ((Ring.sorted (e'.ring.take 4)).map f).length := by
  rw [List.length_map, List.length_map, (Ring.perm_sorted _).length_eq, (Ring.perm_sorted _).length_eq]
  rfl

omit [NumericOrder α] in
/-- What is one of two numbers is one. -/
theorem number_of_limits {x y c : α} (hx : x == x) (hy : y == y) (hc : c = x ∨ c = y) : c == c := by
  obtain rfl | rfl := hc
  · exact hx
  · exact hy

/-- A sound extent has a box for its ring. -/
theorem isBox_ring (h : e.IsSound) : Ring.isBox e.ring := by
  rw [isBox_ring_eq h.lower h.upper]
  have hcorners {c : Coord α} (hc : c ∈ Ring.sorted (e.ring.take 4)) :=
    limits_of_mem_corners ((Ring.perm_sorted _).mem_iff.mp hc)
  have hinOrder {c : Coord α} (hc : c ∈ Ring.sorted (e.inOrder.ring.take 4)) :=
    limits_of_mem_inOrder h.lower h.upper ((Ring.perm_sorted _).mem_iff.mp hc)
  by_cases flat : e.minY == e.maxY
  · refine Ring.beq_iff_axes.mpr ⟨?_, Ring.beq_of_forall (length_sorted_corners _ _ _) ?_⟩
    · by_cases same : e.minX == e.maxX
      · refine Ring.beq_of_forall (length_sorted_corners _ _ _) ?_
        simp only [List.forall_mem_map]
        exact fun c hc d hd => beq_of_limits same (hcorners hc).1 (hinOrder hd).1
      · rw [Ring.map_sorted_eq_of_perm (perm_sides h.lower.x h.upper.x fun hsame => absurd hsame same)]
        refine Ring.beq_self (List.forall_mem_map.mpr fun c hc => ?_)
        exact number_of_limits h.lower.x h.upper.x (hinOrder hc).1
    · simp only [List.forall_mem_map]
      exact fun c hc d hd => beq_of_limits flat (hcorners hc).2 (hinOrder hd).2
  · have hx := limits_cases h.lower.x h.upper.x fun hx => (h.sides hx).resolve_right flat
    have hy := limits_cases h.lower.y h.upper.y fun hy => absurd hy flat
    have hperm : (e.ring.take 4).Perm (e.inOrder.ring.take 4) := perm_corners hx hy
    rw [Ring.sorted_eq_of_perm hperm]
    refine Ring.beq_self fun c hc => Coord.beq_iff.mpr ⟨?_, ?_⟩
    · exact number_of_limits h.lower.x h.upper.x (hinOrder hc).1
    · exact number_of_limits h.lower.y h.upper.y (hinOrder hc).2

/-- Two values that are not the same are sorted in one order only. -/
theorem exists_sorted {x y : α} (h : x ≠ y) :
    ∃ x₁ x₂, (x₁ = x ∧ x₂ = y ∨ x₁ = y ∧ x₂ = x) ∧ ¬ Scalar.sortsBefore x₂ x₁ := by
  by_cases hyx : Scalar.sortsBefore y x
  · exact ⟨y, x, .inr ⟨rfl, rfl⟩, fun hxy => h (NumericOrder.sortsBefore_antisymm hxy hyx)⟩
  · exact ⟨x, y, .inl ⟨rfl, rfl⟩, hyx⟩

/-- Around an extent with sorted limits, the heights of the sorted corners alternate. -/
theorem sorted_corners {l b r t : α} (hx : ¬ Scalar.sortsBefore r l) (hy : ¬ Scalar.sortsBefore t b) :
    (Ring.sorted ((⟨l, b, r, t⟩ : Extent α).ring.take 4)).map (·.y) = [b, t, b, t] := by
  have hy' := (NumericOrder.sortsBefore_total b t).resolve_right hy
  simp [ring, Ring.sorted, Ring.insertSorted, Ring.sortsBefore, hx, hy, hy', NumericOrder.sortsBefore_self]

/-- Around an extent without width, they do not. -/
theorem sorted_segment {l b t : α} (hy : ¬ Scalar.sortsBefore t b) :
    (Ring.sorted ((⟨l, b, l, t⟩ : Extent α).ring.take 4)).map (·.y) = [b, b, t, t] := by
  simp [ring, Ring.sorted, Ring.insertSorted, Ring.sortsBefore, hy, NumericOrder.sortsBefore_self]

/-- With two sides in the same place that are not the same value, a ring is no box unless it is flat. -/
theorem not_isBox_ring (lower : (⟨e.minX, e.minY⟩ : Coord α).IsNumber) (upper : (⟨e.maxX, e.maxY⟩ : Coord α).IsNumber)
    (same : e.minX == e.maxX) (ne : e.minX ≠ e.maxX) (steep : ¬ e.minY == e.maxY) : ¬ Ring.isBox e.ring := by
  intro hbox
  rw [isBox_ring_eq lower upper] at hbox
  obtain ⟨hmin, hmax⟩ := limits_of_beq same
  have hne : e.minY ≠ e.maxY := fun heq => steep (heq ▸ lower.y)
  obtain ⟨l, r, hx, hlr⟩ := exists_sorted ne
  obtain ⟨b, t, hy, hbt⟩ := exists_sorted hne
  have hcorners : (e.ring.take 4).Perm ((⟨l, b, r, t⟩ : Extent α).ring.take 4) := perm_corners hx hy
  have hinOrder : (e.inOrder.ring.take 4).Perm ((⟨e.minX, b, e.minX, t⟩ : Extent α).ring.take 4) := by
    have hlimits := limits_cases lower.y upper.y fun heq => absurd heq steep
    have horder : (e.inOrder.ring.take 4).Perm ((⟨e.minX, e.minY, e.minX, e.maxY⟩ : Extent α).ring.take 4) := by
      rw [inOrder, hmin, hmax]
      exact (perm_corners (.inl ⟨rfl, rfl⟩) hlimits).symm
    exact horder.trans (perm_corners (.inl ⟨rfl, rfl⟩) hy)
  rw [Ring.sorted_eq_of_perm hcorners, Ring.sorted_eq_of_perm hinOrder] at hbox
  have hheights := (Ring.beq_iff_axes.mp hbox).2
  rw [sorted_corners hlr hbt, sorted_segment hbt] at hheights
  simp only [List.cons_beq_cons, Bool.and_eq_true] at hheights
  have htb : t == b := hheights.2.1
  obtain ⟨rfl, rfl⟩ | ⟨rfl, rfl⟩ := hy
  · exact steep (by rwa [NumericOrder.beq_comm])
  · exact steep htb

/-- The ring around an extent is a box exactly when the extent is sound. -/
theorem isBox_ring_iff : Ring.isBox e.ring ↔ e.IsSound := by
  refine ⟨fun hbox => ?_, isBox_ring⟩
  have hnumbers : ∀ c ∈ e.ring.take 4, c.IsNumber := by
    intro c hc
    simp only [Ring.isBox, ofCoords?, ring, Bool.and_eq_true] at hbox
    obtain ⟨d, hd⟩ := Ring.exists_beq_of_beq hbox.2 c ((Ring.perm_sorted _).mem_iff.mpr hc)
    rw [Coord.beq_iff] at hd
    exact ⟨NumericOrder.number_of_beq hd.1, NumericOrder.number_of_beq hd.2⟩
  have lower : (⟨e.minX, e.minY⟩ : Coord α).IsNumber := hnumbers _ (by simp [ring])
  have upper : (⟨e.maxX, e.maxY⟩ : Coord α).IsNumber := hnumbers _ (by simp [ring])
  refine ⟨lower, upper, fun same => ?_⟩
  by_contra hneither
  obtain ⟨ne, steep⟩ := not_or.mp hneither
  exact not_isBox_ring lower upper same ne steep hbox

end Extent

/-- A rectangle between the two zeros is no box, though its corners are those of its extent. -/
example : Ring.isBox (Extent.ring (⟨-0.0, 1.0, 0.0, 2.0⟩ : Extent Float)) = false := by decide +kernel

namespace Ring

omit [Scalar α] in
/-- Changing each axis by itself turns the ring of an extent into the ring of an extent. -/
theorem map_ring (f g : α → α) (e : Extent α) : e.ring.map (fun c => ⟨f c.x, g c.y⟩) = (e.mapAxes f g).ring := rfl

/-- A dragged box is moved as one, to an extent that is not degenerate. -/
theorem drag?_of_isBox {ring moved : Polyline α} {drag : VertexDrag α} {target : Coord α} (box : isBox ring)
    (h : drag? ring drag target = some moved) :
    moved = ring.map (moveCorner drag.coordinate target) ∧ ∃ e, Extent.ofCoords? moved = some e ∧ ¬ e.isDegenerate := by
  simp only [drag?, box, if_true] at h
  split at h
  · next e he =>
    split at h
    · cases h
    · next hwide =>
      cases Option.some.inj h
      exact ⟨rfl, e, he, hwide⟩
  · cases h

variable [NumericOrder α]

/-- A box stays one when a corner is dragged onto a number. -/
theorem isSound_of_drag? {e : Extent α} {moved : Polyline α} {drag : VertexDrag α} {target : Coord α} (h : e.IsSound)
    (number : target.IsNumber) (accepted : drag? e.ring drag target = some moved) :
    ∃ e' : Extent α, moved = e'.ring ∧ e'.IsSound := by
  obtain ⟨rfl, hull, hhull, hwide⟩ := drag?_of_isBox (Extent.isBox_ring h) accepted
  let f := fun x => if close x drag.coordinate.x then target.x else x
  let g := fun y => if close y drag.coordinate.y then target.y else y
  have hring : e.ring.map (moveCorner drag.coordinate target) = (e.mapAxes f g).ring := map_ring f g e
  have hf {x : α} (hx : x == x) : f x == f x := by
    simp only [f]
    split
    · exact number.x
    · exact hx
  have hg {y : α} (hy : y == y) : g y == g y := by
    simp only [g]
    split
    · exact number.y
    · exact hy
  have lower : (⟨f e.minX, g e.minY⟩ : Coord α).IsNumber := ⟨hf h.lower.x, hg h.lower.y⟩
  have upper : (⟨f e.maxX, g e.maxY⟩ : Coord α).IsNumber := ⟨hf h.upper.x, hg h.upper.y⟩
  refine ⟨e.mapAxes f g, hring, lower, upper, fun same => absurd ?_ hwide⟩
  rw [hring, Extent.ofCoords?_ring lower upper] at hhull
  cases hhull
  obtain ⟨hmin, hmax⟩ := Extent.limits_of_beq same
  simp only [Extent.isDegenerate, Extent.inOrder, hmin, hmax, Bool.or_eq_true]
  exact .inl lower.x

end Ring

end AreaOfInterest
