import EnumTables.Proofs.Distinctness
import Mathlib.Data.List.Sort

/-!
# The first constant of every value

The constants of a group are gone through once, with the values at hand which were seen before.  What is
kept that way can be said of places alone, without any order of steps: a constant is kept if no place before
its own has the same value.

* `firsts_append` — constants which are added behind others are selected as if their values had been seen.
* `FirstAt` — a constant is the first one of its value, by its place.
* `Keeps` and `Keeps.unique` — the places which are kept, and that they leave no choice.
* `keeps_firsts` — the first constants are kept at these places.
* `FirstSelection` — what a selection of first constants does, for every group.
-/

namespace EnumTables.Group

variable {constants kept kept' : List Constant} {places : List Nat} {place : Nat} {constant : Constant}

/-! ## Constants behind others -/

/-- How often a value was seen, and when, does not matter. -/
lemma firstsFrom_congr {seen seen' : List Int} (hsame : ∀ v, v ∈ seen ↔ v ∈ seen')
    (constants : List Constant) : firstsFrom seen constants = firstsFrom seen' constants := by
  induction constants generalizing seen seen' with
  | nil => rfl
  | cons constant rest ih =>
      have hnext : ∀ v, v ∈ constant.value :: seen ↔ v ∈ constant.value :: seen' := by
        intro v
        rw [List.mem_cons, List.mem_cons, hsame]
      simp only [firstsFrom, hsame, ih hsame, ih hnext]

lemma firstsFrom_append (seen : List Int) (before behind : List Constant) :
    firstsFrom seen (before ++ behind) =
      firstsFrom seen before ++ firstsFrom (before.map (·.value) ++ seen) behind := by
  induction before generalizing seen with
  | nil => rfl
  | cons constant rest ih =>
      rw [List.cons_append, firstsFrom, firstsFrom]
      split_ifs with hseen
      · rw [ih, List.append_cancel_left_eq]
        refine firstsFrom_congr (fun v => ?_) behind
        simp only [List.map_cons, List.cons_append, List.mem_cons, List.mem_append]
        exact (or_iff_right_of_imp fun hv => .inr (hv ▸ hseen)).symm
      · rw [ih, List.cons_append, List.cons.injEq, List.append_cancel_left_eq]
        refine ⟨rfl, firstsFrom_congr (fun v => ?_) behind⟩
        simp only [List.map_cons, List.cons_append, List.mem_cons, List.mem_append, or_left_comm]

/-- **Constants behind others** are selected as if the values of these had been seen. -/
theorem firsts_append (before behind : List Constant) :
    firsts (before ++ behind) = firsts before ++ firstsFrom (before.map (·.value)) behind := by
  simp only [firsts, firstsFrom_append, List.append_nil]

/-- A constant behind one of its value is never selected, and hides no other one. -/
lemma firsts_insert_of_mem {before : List Constant} {further : Constant}
    (h : further.value ∈ before.map (·.value)) (behind : List Constant) :
    firsts (before ++ further :: behind) = firsts (before ++ behind) := by
  rw [firsts_append, firsts_append, firstsFrom, if_pos h]

/-- The same by places, where the earlier constant is at a smaller one. -/
lemma firsts_insertIdx {earlier : Nat} {existing further : Constant} (hlt : earlier < place)
    (hearlier : constants[earlier]? = some existing) (hvalue : existing.value = further.value) :
    firsts (constants.insertIdx place further) = firsts constants := by
  rcases Nat.lt_or_ge constants.length place with hlong | hle
  · -- there is no such place, and nothing is inserted
    rw [List.insertIdx_of_length_lt hlong]
  · obtain ⟨before, behind, rfl, rfl, hinsert⟩ :=
      List.exists_of_modifyTailIdx (List.cons further) hle
    have hmem : existing ∈ before := by
      rw [List.getElem?_append_left hlt] at hearlier
      exact List.mem_of_getElem? hearlier
    rw [List.insertIdx, hinsert]
    exact firsts_insert_of_mem (hvalue ▸ List.mem_map_of_mem hmem) behind

/-! ## Places -/

/-- **A constant is the first one of its value**: it is at a place, and no smaller one has the value. -/
structure FirstAt (constants : List Constant) (place : Nat) (constant : Constant) : Prop where
  here : constants[place]? = some constant
  alone : ∀ earlier < place, ∀ other, constants[earlier]? = some other → other.value ≠ constant.value

/-- **What is kept of a list of constants**: those at the places of first ones, in the order of these. -/
structure Keeps (constants : List Constant) (places : List Nat) (kept : List Constant) : Prop where
  increasing : places.Pairwise (· < ·)
  mem_iff : ∀ place, place ∈ places ↔ ∃ constant, FirstAt constants place constant
  kept_eq : kept.map some = places.map (constants[·]?)

/-- There is one way only to keep the first constants. -/
lemma Keeps.unique {places' : List Nat} (h : Keeps constants places kept)
    (h' : Keeps constants places' kept') : kept = kept' := by
  have hplaces : places = places' :=
    h.increasing.eq_of_mem_iff h'.increasing fun place => (h.mem_iff place).trans (h'.mem_iff place).symm
  have hsome : kept.map some = kept'.map some := by
    rw [h.kept_eq, h'.kept_eq, hplaces]
  exact List.map_injective_iff.mpr (Option.some_injective _) hsome

/-- What is kept are the constants which are first at some place. -/
lemma Keeps.mem_kept_iff (h : Keeps constants places kept) :
    constant ∈ kept ↔ ∃ place, FirstAt constants place constant := by
  have hkept : constant ∈ kept ↔ ∃ place ∈ places, constants[place]? = some constant := by
    rw [← List.mem_map, ← h.kept_eq, List.mem_map_of_injective (Option.some_injective _)]
  rw [hkept]
  constructor
  · rintro ⟨place, hplace, hhere⟩
    obtain ⟨first, hfirst⟩ := (h.mem_iff place).mp hplace
    obtain rfl : first = constant := Option.some_inj.mp (hfirst.here.symm.trans hhere)
    exact ⟨place, hfirst⟩
  · rintro ⟨place, hfirst⟩
    exact ⟨place, (h.mem_iff place).mpr ⟨constant, hfirst⟩, hfirst.here⟩

/-- The place is the first one of its constant's value if the value was not seen on the way to it. -/
lemma firstAt?_eq_some_iff :
    firstAt? [] constants place = some constant ↔ FirstAt constants place constant := by
  have htake : ∀ other, other ∈ constants.take place ↔
      ∃ earlier < place, constants[earlier]? = some other := by
    intro other
    simp only [List.mem_iff_getElem?, List.getElem?_take, Option.ite_none_right_eq_some]
  simp only [firstAt?, List.nil_append, Option.filter_eq_some_iff, decide_eq_true_eq, List.mem_map, htake]
  constructor
  · rintro ⟨hhere, hnew⟩
    exact ⟨hhere, fun earlier hlt other hother hvalue => hnew ⟨other, ⟨earlier, hlt, hother⟩, hvalue⟩⟩
  · rintro ⟨hhere, halone⟩
    refine ⟨hhere, ?_⟩
    rintro ⟨other, ⟨earlier, hlt, hother⟩, hvalue⟩
    exact halone earlier hlt other hother hvalue

/-- The places of the first constants. -/
def firstPlaces (constants : List Constant) : List Nat :=
  (List.range constants.length).filter fun place => (firstAt? [] constants place).isSome

lemma mem_firstPlaces_iff :
    place ∈ firstPlaces constants ↔ ∃ constant, FirstAt constants place constant := by
  simp only [firstPlaces, List.mem_filter, List.mem_range, Option.isSome_iff_exists, firstAt?_eq_some_iff]
  refine and_iff_right_of_imp ?_
  rintro ⟨constant, hfirst⟩
  exact (List.getElem?_eq_some_iff.mp hfirst.here).1

/-- **The first constants are kept at their places.** -/
theorem keeps_firsts (constants : List Constant) :
    Keeps constants (firstPlaces constants) (firsts constants) where
  increasing := List.pairwise_lt_range.filter _
  mem_iff _ := mem_firstPlaces_iff
  kept_eq := by
    rw [firsts, firstsFrom_eq_filterMap, List.map_filterMap_some_eq_filter_map_isSome, List.filter_map]
    refine List.map_congr_left fun place hplace => ?_
    obtain ⟨constant, hfirst⟩ := mem_firstPlaces_iff.mp hplace
    rw [firstAt?_eq_some_iff.mpr hfirst, hfirst.here]

/-! ## Selections -/

/-- **A selection of the first constant of every value**, for every group. -/
structure FirstSelection (select : Group → List Constant) : Prop where
  /-- It keeps the constants with no constant of the same value at a smaller place, and nothing else. -/
  keeps_iff : ∀ group kept, (∃ places, Keeps group.constants places kept) ↔ kept = select group
  /-- Their order is that of the group. -/
  sublist : ∀ group, (select group).Sublist group.constants
  /-- No two of them have one value. -/
  nodup : ∀ group, ((select group).map (·.value)).Nodup
  /-- They have all values of the group, and no others. -/
  mem_values : ∀ group v, v ∈ (select group).map (·.value) ↔ v ∈ group.constants.map (·.value)
  /-- Each of them is the earliest one of its value. -/
  earliest : ∀ group constant, constant ∈ select group ↔ ∃ place, FirstAt group.constants place constant
  /-- A further constant at a later place than one of its value changes nothing. -/
  insert : ∀ (group : Group) (earlier place : Nat) (existing further : Constant), earlier < place →
    group.constants[earlier]? = some existing → existing.value = further.value →
      select { group with constants := group.constants.insertIdx place further } = select group

/-- **The constants which are selected for the tables are the first ones of their values.** -/
theorem firstSelection_unique : FirstSelection unique where
  keeps_iff group kept := by
    constructor
    · rintro ⟨places, hkeeps⟩
      exact hkeeps.unique (keeps_firsts group.constants)
    · rintro rfl
      exact ⟨firstPlaces group.constants, keeps_firsts group.constants⟩
  sublist group := firstsFrom_sublist [] group.constants
  nodup group := nodup_values_firsts group.constants
  mem_values _ _ := mem_values_firsts
  earliest group _ := (keeps_firsts group.constants).mem_kept_iff
  insert _ _ _ _ _ hlt hearlier hvalue := firsts_insertIdx hlt hearlier hvalue

end EnumTables.Group
