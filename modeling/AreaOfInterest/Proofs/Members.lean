import AreaOfInterest.Json.Value
import Mathlib.Data.List.Induction

/-!
# Objects as maps

An object is a list of members, and a key may be in it any number of times. Putting a value in order makes maps of its
objects: the keys increase, each is there once, and of the values that it had the last one is kept. So a member that is
there once is found again afterwards, with its own value put in order.

Ordering a second time changes nothing. The values with ordered objects are those that ordering leaves as they are.
-/

namespace AreaOfInterest

namespace Json

namespace Members

/-- The values that a key has, in the order of the members. -/
def values (key : String) (members : Members) : List Json := (members.filter (·.1 = key)).map (·.2)

/-- Members whose keys increase. -/
def Ordered (members : Members) : Prop := members.Pairwise (·.1 < ·.1)

@[simp]
theorem values_nil (key : String) : values key [] = [] := rfl

@[simp]
theorem values_cons_self (key : String) (value : Json) (rest : Members) :
    values key ((key, value) :: rest) = value :: values key rest := by
  simp [values]

@[simp]
theorem values_cons_of_ne {key other : String} (h : other ≠ key) (value : Json) (rest : Members) :
    values key ((other, value) :: rest) = values key rest := by
  simp [values, h]

@[simp]
theorem values_append (key : String) (before after : Members) :
    values key (before ++ after) = values key before ++ values key after := by
  simp [values]

/-- A key that no member has is without values. -/
theorem values_eq_nil {key : String} {members : Members} (h : ∀ m ∈ members, m.1 ≠ key) : values key members = [] := by
  simpa [values] using fun k v hm => h (k, v) hm

/-- The value that is found for a key is the first that it has. -/
theorem get?_eq_head? (key : String) (members : Members) : get? members key = (values key members).head? := by
  induction members with
  | nil => rfl
  | cons member rest ih =>
    obtain ⟨k, value⟩ := member
    by_cases h : k = key
    · subst h
      rw [values_cons_self, get?, List.lookup_cons_self, List.head?_cons]
    · rw [values_cons_of_ne h, ← ih, get?, List.lookup_cons, beq_false_of_ne (Ne.symm h)]
      rfl

section Insert

variable {key : String} {value : Json} {members : Members}

/-- A member of the result is the new one, or was there before. -/
theorem mem_insert {m : String × Json} (h : m ∈ insert key value members) : m = (key, value) ∨ m ∈ members := by
  induction members with
  | nil => exact .inl (List.mem_singleton.mp h)
  | cons member rest ih =>
    simp only [insert] at h
    split_ifs at h with hlt heq
    · exact List.mem_cons.mp h
    · exact (List.mem_cons.mp h).imp_right (List.mem_cons_of_mem _)
    · obtain rfl | h := List.mem_cons.mp h
      · exact .inr List.mem_cons_self
      · exact (ih h).imp_right (List.mem_cons_of_mem _)

/-- Members stay in order. -/
theorem Ordered.insert (ordered : members.Ordered) : (insert key value members).Ordered := by
  induction members with
  | nil => exact List.pairwise_singleton _ _
  | cons member rest ih =>
    obtain ⟨k, v⟩ := member
    obtain ⟨hfirst, hrest⟩ := List.pairwise_cons.mp ordered
    simp only [Members.insert]
    split_ifs with hlt heq
    · refine List.pairwise_cons.mpr ⟨fun m hm => ?_, ordered⟩
      obtain rfl | hm := List.mem_cons.mp hm
      · exact hlt
      · exact String.lt_trans hlt (hfirst m hm)
    · obtain rfl := eq_of_beq heq
      exact List.pairwise_cons.mpr ⟨hfirst, hrest⟩
    · have hgt : k < key := by
        refine Classical.byContradiction fun hge => ?_
        exact heq (beq_iff_eq.mpr (String.le_antisymm (String.not_lt.mp hge) (String.not_lt.mp hlt)))
      refine List.pairwise_cons.mpr ⟨fun m hm => ?_, ih hrest⟩
      obtain rfl | hm := mem_insert hm
      · exact hgt
      · exact hfirst m hm

/-- The key has the new value only. -/
theorem values_insert_self (ordered : members.Ordered) : values key (insert key value members) = [value] := by
  induction members with
  | nil => rw [insert, values_cons_self, values_nil]
  | cons member rest ih =>
    obtain ⟨k, v⟩ := member
    obtain ⟨hfirst, hrest⟩ := List.pairwise_cons.mp ordered
    have hlater (hle : ¬k < key) : ∀ m ∈ rest, m.1 ≠ key := by
      rintro m hm rfl
      exact hle (hfirst m hm)
    simp only [insert]
    split_ifs with hlt heq
    · have hne : k ≠ key := fun h => String.lt_irrefl _ (h ▸ hlt)
      rw [values_cons_self, values_cons_of_ne hne, values_eq_nil (hlater (String.lt_asymm hlt))]
    · obtain rfl := eq_of_beq heq
      rw [values_cons_self, values_eq_nil (hlater (String.lt_irrefl _))]
    · have hne : k ≠ key := fun h => heq (beq_iff_eq.mpr h.symm)
      rw [values_cons_of_ne hne, ih hrest]

/-- Other keys keep their values. -/
theorem values_insert_of_ne {other : String} (h : other ≠ key) :
    values key (insert other value members) = values key members := by
  induction members with
  | nil => rw [insert, values_cons_of_ne h]
  | cons member rest ih =>
    obtain ⟨k, v⟩ := member
    simp only [insert]
    split_ifs with hlt heq
    · rw [values_cons_of_ne h]
    · obtain rfl := eq_of_beq heq
      rw [values_cons_of_ne h, values_cons_of_ne h]
    · by_cases hk : k = key
      · subst hk
        rw [values_cons_self, values_cons_self, ih]
      · rw [values_cons_of_ne hk, values_cons_of_ne hk, ih]

/-- A key that is larger than all the others comes last. -/
theorem insert_of_forall_lt (h : ∀ m ∈ members, m.1 < key) : insert key value members = members ++ [(key, value)] := by
  induction members with
  | nil => rfl
  | cons member rest ih =>
    obtain ⟨hlt, hrest⟩ := List.forall_mem_cons.mp h
    have hne : ¬(key == member.1) = true := fun heq => String.lt_irrefl _ (eq_of_beq heq ▸ hlt)
    rw [insert, if_neg (String.lt_asymm hlt), if_neg hne, ih hrest, List.cons_append]

/-- Values are changed one by one before or after. -/
theorem map_insert (change : Json → Json) : (insert key value members).map (Prod.map id change) =
    insert key (change value) (members.map (Prod.map id change)) := by
  induction members with
  | nil => rfl
  | cons member rest ih =>
    simp only [insert, List.map_cons, Prod.map, id_eq, apply_ite (List.map _), ih]

end Insert

/-- The last of several pairs is put in last. -/
theorem ofList_concat (pairs : Members) (key : String) (value : Json) :
    ofList (pairs ++ [(key, value)]) = insert key value (ofList pairs) := List.foldl_append

/-- The members of a list of pairs are in order. -/
theorem ordered_ofList (pairs : Members) : (ofList pairs).Ordered := by
  induction pairs using List.reverseRecOn with
  | nil => exact .nil
  | append_singleton pairs last ih =>
    rw [ofList_concat]
    exact ih.insert

/-- A key has the last of the values that the pairs give it. -/
theorem values_ofList (key : String) (pairs : Members) :
    values key (ofList pairs) = (values key pairs).getLast?.toList := by
  induction pairs using List.reverseRecOn with
  | nil => rfl
  | append_singleton pairs last ih =>
    obtain ⟨k, value⟩ := last
    rw [ofList_concat, values_append]
    by_cases h : k = key
    · subst h
      rw [values_insert_self (ordered_ofList pairs), values_cons_self, values_nil, List.getLast?_concat]
      rfl
    · rw [values_insert_of_ne h, ih, values_cons_of_ne h, values_nil, List.append_nil]

/-- Members in order are the members of themselves. -/
theorem Ordered.ofList_eq {members : Members} (ordered : members.Ordered) : ofList members = members := by
  induction members using List.reverseRecOn with
  | nil => rfl
  | append_singleton members last ih =>
    obtain ⟨hbefore, -, hlast⟩ := List.pairwise_append.mp ordered
    rw [ofList_concat, ih hbefore]
    exact insert_of_forall_lt fun m hm => hlast m hm last (List.mem_singleton_self last)

/-- Values are changed one by one before or after. -/
theorem map_ofList (change : Json → Json) (pairs : Members) :
    (ofList pairs).map (Prod.map id change) = ofList (pairs.map (Prod.map id change)) := by
  induction pairs using List.reverseRecOn with
  | nil => rfl
  | append_singleton pairs last ih =>
    rw [ofList_concat, map_insert, ih, List.map_append]
    exact (ofList_concat ..).symm

end Members

/-- Items are put in order one by one. -/
theorem sortedItems_eq_map (items : List Json) : sortedItems items = items.map sorted := by
  induction items with
  | nil => rfl
  | cons item rest ih => rw [sortedItems, ih, List.map_cons]

/-- The values of members are put in order one by one. -/
theorem sortedMembers_eq_map (members : Members) : sortedMembers members = members.map (Prod.map id sorted) := by
  induction members with
  | nil => rfl
  | cons member rest ih =>
    rw [sortedMembers, ih]
    rfl

mutual

/-- What has been put in order stays as it is. -/
theorem sorted_sorted : ∀ value : Json, value.sorted.sorted = value.sorted
  | .null | .bool _ | .number _ | .string _ => rfl
  | .array items => congrArg array (sortedItems_sortedItems items)
  | .object members => by
    simp only [sorted]
    rw [sortedMembers_eq_map (Members.ofList _), Members.map_ofList, ← sortedMembers_eq_map,
      sortedMembers_sortedMembers members, (Members.ordered_ofList _).ofList_eq]

/-- Items that have been put in order stay as they are. -/
theorem sortedItems_sortedItems : ∀ items : List Json, sortedItems (sortedItems items) = sortedItems items
  | [] => rfl
  | item :: rest => congrArg₂ List.cons (sorted_sorted item) (sortedItems_sortedItems rest)

/-- Values that have been put in order stay as they are. -/
theorem sortedMembers_sortedMembers :
    ∀ members : Members, sortedMembers (sortedMembers members) = sortedMembers members
  | [] => rfl
  | (key, value) :: rest =>
    congrArg₂ List.cons (congrArg (Prod.mk key) (sorted_sorted value)) (sortedMembers_sortedMembers rest)

end

/-- A key keeps the last of its values, put in order. -/
theorem Members.values_sorted (key : String) (members : Members) :
    values key (ofList (sortedMembers members)) = ((values key members).getLast?.map sorted).toList := by
  have hvalues : values key (sortedMembers members) = (values key members).map sorted := by
    simp only [sortedMembers_eq_map, values, List.filter_map, List.map_map]
    rfl
  rw [values_ofList, hvalues, List.getLast?_map]

/-- A key that is there once keeps its value, put in order. -/
theorem Members.values_sorted_of_eq_singleton {key : String} {members : Members} {value : Json}
    (h : values key members = [value]) : values key (ofList (sortedMembers members)) = [value.sorted] := by
  rw [values_sorted, h]
  rfl

end Json

end AreaOfInterest
