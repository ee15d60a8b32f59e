import AreaOfInterest.GeoJson.Model
import Mathlib.Data.List.MinMax
import Mathlib.Tactic.Convert

/-!
# The dominant kind

The kinds of a collection's geometries are tallied one by one. A kind gets its entry when it is seen for the first time,
behind the entries of those that were seen before, and the first entry with the largest count wins. So the winner occurs
as often as any kind does, and of the kinds that occur as often it was seen first.
-/

namespace AreaOfInterest.FeatureCollection

variable {kinds : List GeometryKind} {counts : List (GeometryKind × Nat)} {k : GeometryKind}

/-- A kind is the dominant one among several: it is one of them, none occurs more often, and all others that occur as
often were seen later. -/
structure IsDominant (kinds : List GeometryKind) (k : GeometryKind) : Prop where
  mem : k ∈ kinds
  most (j : GeometryKind) : kinds.count j ≤ kinds.count k
  first {j : GeometryKind} (other : j ≠ k) (often : kinds.count j = kinds.count k) : kinds.idxOf k < kinds.idxOf j

/-- A tally has an entry with its count for each kind that was seen, in the order in which they were first seen. -/
structure IsTallyOf (counts : List (GeometryKind × Nat)) (kinds : List GeometryKind) : Prop where
  mem_iff {k : GeometryKind} {n : Nat} : (k, n) ∈ counts ↔ k ∈ kinds ∧ n = kinds.count k
  inOrder : counts.Pairwise fun a b => kinds.idxOf a.1 < kinds.idxOf b.1

/-- One kind is dominant at most. -/
theorem IsDominant.unique {j : GeometryKind} (h : IsDominant kinds k) (h' : IsDominant kinds j) : j = k := by
  have hoften : kinds.count j = kinds.count k := Nat.le_antisymm (h.most j) (h'.most k)
  by_contra hother
  exact Nat.lt_asymm (h.first hother hoften) (h'.first (Ne.symm hother) hoften.symm)

/-- A kind without an entry gets one at the end. -/
theorem tally_of_forall_ne (unseen : ∀ entry ∈ counts, entry.1 ≠ k) : tally counts k = counts ++ [(k, 1)] := by
  induction counts with
  | nil => rfl
  | cons entry rest ih =>
    obtain ⟨hentry, hrest⟩ := List.forall_mem_cons.mp unseen
    rw [tally, if_neg hentry, ih hrest, List.cons_append]

/-- A kind with an entry has its count raised there. -/
theorem tally_append_cons {before after : List (GeometryKind × Nat)} {n : Nat}
    (unseen : ∀ entry ∈ before, entry.1 ≠ k) :
    tally (before ++ (k, n) :: after) k = before ++ (k, n + 1) :: after := by
  induction before with
  | nil => rw [List.nil_append, tally, if_pos rfl, List.nil_append]
  | cons entry rest ih =>
    obtain ⟨hentry, hrest⟩ := List.forall_mem_cons.mp unseen
    rw [List.cons_append, tally, if_neg hentry, ih hrest, List.cons_append]

namespace IsTallyOf

/-- Entries are those of kinds that were seen. -/
theorem mem_kinds (h : IsTallyOf counts kinds) {entry : GeometryKind × Nat} (mem : entry ∈ counts) :
    entry.1 ∈ kinds := (h.mem_iff.mp mem).1

/-- The order of the entries does not change when a kind is seen later on. -/
theorem inOrder_concat (h : IsTallyOf counts kinds) (k : GeometryKind) :
    counts.Pairwise fun a b => (kinds ++ [k]).idxOf a.1 < (kinds ++ [k]).idxOf b.1 := by
  refine h.inOrder.imp_of_mem fun {a b} ha hb hlt => ?_
  rwa [List.idxOf_append_of_mem (h.mem_kinds ha), List.idxOf_append_of_mem (h.mem_kinds hb)]

/-- A kind that is seen for the first time is tallied. -/
theorem tally_of_notMem (h : IsTallyOf counts kinds) (unseen : k ∉ kinds) :
    IsTallyOf (tally counts k) (kinds ++ [k]) := by
  have hne : ∀ entry ∈ counts, entry.1 ≠ k := fun entry mem heq => unseen (heq ▸ h.mem_kinds mem)
  rw [tally_of_forall_ne hne]
  constructor
  · intro j n
    rw [List.mem_append, h.mem_iff, List.mem_singleton, List.mem_append, List.mem_singleton, List.count_append,
      List.count_singleton, Prod.mk.injEq]
    by_cases hj : j = k
    · subst hj
      simp [unseen, List.count_eq_zero_of_not_mem unseen]
    · simp [hj, Ne.symm hj]
  · rw [List.pairwise_append]
    refine ⟨h.inOrder_concat k, List.pairwise_singleton _ _, fun entry mem last hlast => ?_⟩
    rw [List.mem_singleton.mp hlast, List.idxOf_append_of_mem (h.mem_kinds mem),
      List.idxOf_append_of_notMem unseen]
    have := List.idxOf_lt_length_iff.mpr (h.mem_kinds mem)
    omega

/-- A kind has one entry at most. -/
theorem ne_of_split {before after : List (GeometryKind × Nat)} {n : Nat}
    (h : IsTallyOf (before ++ (k, n) :: after) kinds) :
    (∀ entry ∈ before, entry.1 ≠ k) ∧ ∀ entry ∈ after, entry.1 ≠ k := by
  obtain ⟨-, hlater, hearlier⟩ := List.pairwise_append.mp h.inOrder
  refine ⟨fun entry mem heq => ?_, fun entry mem heq => ?_⟩
  · have hlt := hearlier entry mem (k, n) List.mem_cons_self
    rw [heq] at hlt
    exact Nat.lt_irrefl _ hlt
  · have hlt := List.rel_of_pairwise_cons hlater mem
    rw [heq] at hlt
    exact Nat.lt_irrefl _ hlt

/-- A kind that was seen before is tallied. -/
theorem tally_of_mem (h : IsTallyOf counts kinds) (seen : k ∈ kinds) : IsTallyOf (tally counts k) (kinds ++ [k]) := by
  obtain ⟨before, after, rfl⟩ := List.append_of_mem (h.mem_iff.mpr ⟨seen, rfl⟩)
  obtain ⟨hbefore, hafter⟩ := h.ne_of_split
  rw [tally_append_cons hbefore]
  constructor
  · intro j n
    have hmem := h.mem_iff (k := j) (n := n)
    rw [List.mem_append, List.mem_cons, Prod.mk.injEq] at hmem ⊢
    rw [List.mem_append, List.mem_singleton, List.count_append, List.count_singleton]
    by_cases hj : j = k
    · subst hj
      have hb : (j, n) ∉ before := fun mem => hbefore _ mem rfl
      have ha : (j, n) ∉ after := fun mem => hafter _ mem rfl
      simp [hb, ha]
    · simpa [hj, Ne.symm hj] using hmem
  · have hsame := h.inOrder_concat k
    rw [← List.pairwise_map] at hsame ⊢
    simpa only [List.map_append, List.map_cons] using hsame

end IsTallyOf

/-- Tallying several kinds gives a tally of them. -/
theorem isTallyOf_foldl (kinds : List GeometryKind) : IsTallyOf (kinds.foldl tally []) kinds := by
  induction kinds using List.reverseRecOn with
  | nil => exact ⟨by simp, .nil⟩
  | append_singleton kinds k ih =>
    rw [List.foldl_append, List.foldl_cons, List.foldl_nil]
    by_cases hseen : k ∈ kinds
    · exact ih.tally_of_mem hseen
    · exact ih.tally_of_notMem hseen

/-- The most frequent kind is that of the first entry with the largest count. -/
theorem mostFrequent?_eq_argmax (counts : List (GeometryKind × Nat)) :
    mostFrequent? counts = (counts.argmax Prod.snd).map Prod.fst := by
  refine congrArg (Option.map Prod.fst) (congrArg (fun step => counts.foldl step none) ?_)
  funext best entry
  cases best with
  | none => rfl
  | some leader => exact if_congr Iff.rfl rfl rfl

namespace IsTallyOf

/-- A kind that was seen has an entry with its count. -/
theorem mem_of_seen (h : IsTallyOf counts kinds) (seen : k ∈ kinds) : (k, kinds.count k) ∈ counts :=
  h.mem_iff.mpr ⟨seen, rfl⟩

/-- There are no entries as long as no kind was seen. -/
theorem eq_nil_iff (h : IsTallyOf counts kinds) : counts = [] ↔ kinds = [] := by
  constructor
  · rintro rfl
    exact List.eq_nil_iff_forall_not_mem.mpr fun k seen => List.not_mem_nil (h.mem_of_seen seen)
  · rintro rfl
    exact List.eq_nil_iff_forall_not_mem.mpr fun entry mem => List.not_mem_nil (h.mem_kinds mem)

/-- A kind with an earlier entry was seen earlier. -/
theorem idxOf_lt (h : IsTallyOf counts kinds) {a b : GeometryKind × Nat} (ha : a ∈ counts) (hb : b ∈ counts)
    (earlier : counts.idxOf a < counts.idxOf b) : kinds.idxOf a.1 < kinds.idxOf b.1 := by
  have hlt := List.pairwise_iff_getElem.mp h.inOrder _ _ (List.idxOf_lt_length_iff.mpr ha)
    (List.idxOf_lt_length_iff.mpr hb) earlier
  rwa [List.getElem_idxOf, List.getElem_idxOf] at hlt

/-- The kind of the first entry with the largest count is dominant. -/
theorem isDominant_of_argmax (h : IsTallyOf counts kinds) {leader : GeometryKind × Nat}
    (argmax : counts.argmax Prod.snd = some leader) : IsDominant kinds leader.1 := by
  obtain ⟨hmem, hmost, hearliest⟩ := List.argmax_eq_some_iff.mp argmax
  have hcount : leader.2 = kinds.count leader.1 := (h.mem_iff.mp hmem).2
  have hseen : leader.1 ∈ kinds := h.mem_kinds hmem
  constructor
  · exact hseen
  · intro j
    by_cases hj : j ∈ kinds
    · rw [← hcount]
      exact hmost _ (h.mem_of_seen hj)
    · rw [List.count_eq_zero_of_not_mem hj]
      exact Nat.zero_le _
  · intro j hother hoften
    have hj : j ∈ kinds := List.count_pos_iff.mp (hoften ▸ List.count_pos_iff.mpr hseen)
    have hentry := h.mem_of_seen hj
    -- the two comparisons of pairs at hand differ in form only
    have hle : counts.idxOf leader ≤ counts.idxOf (j, kinds.count j) := by
      convert hearliest _ hentry (hcount.trans hoften.symm).le
    refine h.idxOf_lt hmem hentry (Nat.lt_of_le_of_ne hle fun heq => hother ?_)
    exact (congrArg Prod.fst ((List.idxOf_inj hmem).mp heq)).symm

end IsTallyOf

/-- A collection has no dominant kind exactly when none of its features has a geometry. Otherwise the dominant kind is
the one that occurs most often among its geometries, and was seen first of those that occur as often. -/
theorem dominantKind?_eq_iff {α : Type} (c : FeatureCollection α) :
    (c.dominantKind? = none ↔ ∀ f ∈ c.features, f.geometry = none) ∧
      ∀ k, c.dominantKind? = some k ↔ IsDominant (c.geometries.map Geometry.kind) k := by
  have htally := isTallyOf_foldl (c.geometries.map Geometry.kind)
  rw [dominantKind?, mostFrequent?_eq_argmax]
  constructor
  · rw [Option.map_eq_none_iff, List.argmax_eq_none, htally.eq_nil_iff, List.map_eq_nil_iff, geometries,
      List.filterMap_eq_nil_iff]
  · intro k
    rw [Option.map_eq_some_iff]
    constructor
    · rintro ⟨leader, hleader, rfl⟩
      exact htally.isDominant_of_argmax hleader
    · intro hk
      cases hleader : ((c.geometries.map Geometry.kind).foldl tally []).argmax Prod.snd with
      | none =>
        have hnil := htally.eq_nil_iff.mp (List.argmax_eq_none.mp hleader)
        exact absurd hk.mem (hnil ▸ List.not_mem_nil)
      | some leader => exact ⟨leader, rfl, hk.unique (htally.isDominant_of_argmax hleader)⟩

/-- Of two kinds that occur twice the one that was seen first wins, although the other gets there first. -/
example : mostFrequent? ([.polygon, .point, .point, .polygon].foldl tally []) = some .polygon := rfl

end AreaOfInterest.FeatureCollection
