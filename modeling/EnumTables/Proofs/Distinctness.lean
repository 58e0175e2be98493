import EnumTables.Group.Basic
import Mathlib.Data.List.Nodup

/-!
# What tells the constants of a group apart

Several constants of a group may have one value, of which the first one then stands for all; but no two
constants may have one name.

* `find?_firsts` — the first constants are enough to look a value up.
* `nodup_values_firsts`, `mem_values_firsts` — they have every value once.
* `firsts_eq_filterMap` — they are the constants whose value no earlier one has.
* `clash?_eq_none_iff` — there is no clash if the names tell the constants apart.
* `rename_eq_ok_iff` — a group can be renamed if its new names do so.
-/

namespace EnumTables.Group

/-! ## First constants -/

lemma firstsFrom_sublist (seen : List Int) (constants : List Constant) :
    (firstsFrom seen constants).Sublist constants := by
  induction constants generalizing seen with
  | nil => exact List.Sublist.refl _
  | cons constant rest ih =>
      rw [firstsFrom]
      split_ifs
      · exact (ih seen).cons constant
      · exact (ih _).cons_cons constant

/-- The constants which are left out have values which were seen. -/
lemma find?_firstsFrom {seen : List Int} {v : Int} (hv : v ∉ seen) (constants : List Constant) :
    (firstsFrom seen constants).find? (·.value == v) = constants.find? (·.value == v) := by
  induction constants generalizing seen with
  | nil => rfl
  | cons constant rest ih =>
      rw [firstsFrom]
      split_ifs with hseen
      · have hne : (constant.value == v) = false := by
          rw [beq_eq_false_iff_ne]
          rintro rfl
          exact hv hseen
        rw [List.find?_cons, hne]
        exact ih hv
      · rw [List.find?_cons, List.find?_cons]
        by_cases heq : constant.value = v
        · simp only [heq, beq_self_eq_true]
        · have hne : (constant.value == v) = false := beq_eq_false_iff_ne.mpr heq
          rw [hne]
          exact ih (by simp [hv, Ne.symm heq])

/-- **The first constants are enough to look a value up.** -/
theorem find?_firsts (constants : List Constant) (v : Int) :
    (firsts constants).find? (·.value == v) = constants.find? (·.value == v) :=
  find?_firstsFrom List.not_mem_nil constants

/-- The first constants have all values. -/
lemma mem_values_firsts {constants : List Constant} {v : Int} :
    v ∈ (firsts constants).map (·.value) ↔ v ∈ constants.map (·.value) := by
  have hfound : ∀ l : List Constant, v ∈ l.map (·.value) ↔ (l.find? (·.value == v)).isSome = true := by
    intro l
    simp only [List.mem_map, List.find?_isSome, beq_iff_eq]
  rw [hfound, hfound, find?_firsts]

lemma nodup_values_firstsFrom (seen : List Int) (constants : List Constant) :
    ((firstsFrom seen constants).map (·.value)).Nodup ∧
      ∀ v ∈ (firstsFrom seen constants).map (·.value), v ∉ seen := by
  induction constants generalizing seen with
  | nil => simp [firstsFrom]
  | cons constant rest ih =>
      rw [firstsFrom]
      split_ifs with hseen
      · exact ih seen
      · obtain ⟨hnodup, hnew⟩ := ih (constant.value :: seen)
        refine ⟨List.nodup_cons.mpr ⟨?_, hnodup⟩, ?_⟩
        · intro hmem
          exact hnew _ hmem (List.mem_cons_self ..)
        · intro v hv
          rcases List.mem_cons.mp hv with rfl | hv
          · exact hseen
          · exact fun hold => hnew v hv (List.mem_cons_of_mem _ hold)

/-- No two of the first constants have one value. -/
lemma nodup_values_firsts (constants : List Constant) : ((firsts constants).map (·.value)).Nodup :=
  (nodup_values_firstsFrom [] constants).1

/-- The constant at a place, unless its value is in `seen` or that of an earlier one. -/
def firstAt? (seen : List Int) (constants : List Constant) (place : Nat) : Option Constant :=
  constants[place]?.filter fun constant =>
    constant.value ∉ seen ++ (constants.take place).map (·.value)

lemma firstAt?_zero (seen : List Int) (constant : Constant) (rest : List Constant) :
    firstAt? seen (constant :: rest) 0 = if constant.value ∈ seen then none else some constant := by
  by_cases h : constant.value ∈ seen <;> simp [firstAt?, h]

/-- A constant which goes before the others has its value seen by them. -/
lemma firstAt?_succ (seen : List Int) (constant : Constant) (rest : List Constant) (place : Nat) :
    firstAt? seen (constant :: rest) (place + 1) = firstAt? (constant.value :: seen) rest place := by
  simp only [firstAt?, List.getElem?_cons_succ, List.take_succ_cons, List.map_cons, List.mem_append,
    List.mem_cons, or_assoc, or_left_comm]

/-- A value which was seen can be seen again. -/
lemma firstAt?_cons_of_mem {seen : List Int} {v : Int} (hv : v ∈ seen) (constants : List Constant)
    (place : Nat) : firstAt? (v :: seen) constants place = firstAt? seen constants place := by
  have hsame : ∀ w, w ∈ v :: seen ↔ w ∈ seen := by
    intro w
    rw [List.mem_cons]
    exact or_iff_right_of_imp fun h => h ▸ hv
  simp only [firstAt?, List.mem_append, hsame]

lemma firstsFrom_eq_filterMap (seen : List Int) (constants : List Constant) :
    firstsFrom seen constants = (List.range constants.length).filterMap (firstAt? seen constants) := by
  induction constants generalizing seen with
  | nil => rfl
  | cons constant rest ih =>
      rw [firstsFrom, List.length_cons, List.range_succ_eq_map, List.filterMap_cons, List.filterMap_map,
        firstAt?_zero]
      have hrest : firstAt? seen (constant :: rest) ∘ Nat.succ = firstAt? (constant.value :: seen) rest := by
        funext place
        exact firstAt?_succ seen constant rest place
      rw [hrest]
      split_ifs with hseen
      · rw [ih]
        exact List.filterMap_congr fun place _ => (firstAt?_cons_of_mem hseen rest place).symm
      · rw [ih]

/-- **The first constants are those whose value no earlier one has**, in order. -/
theorem firsts_eq_filterMap (constants : List Constant) :
    firsts constants = (List.range constants.length).filterMap fun place =>
      constants[place]?.filter fun constant => constant.value ∉ (constants.take place).map (·.value) :=
  firstsFrom_eq_filterMap [] constants

/-! ## Names -/

lemma clashFrom?_eq_none_iff {before constants : List Constant} :
    clashFrom? before constants = none ↔
      (constants.map (·.name)).Nodup ∧
        ∀ constant ∈ constants, ∀ earlier ∈ before, earlier.name ≠ constant.name := by
  induction constants generalizing before with
  | nil => simp [clashFrom?]
  | cons constant rest ih =>
      rw [clashFrom?]
      rcases hfind : before.find? (·.name == constant.name) with _ | earlier
      · have hfree : ∀ earlier ∈ before, earlier.name ≠ constant.name := by
          simpa only [List.find?_eq_none, beq_iff_eq] using hfind
        simp only [hfind, ih, List.map_cons, List.nodup_cons, List.mem_map, not_exists, not_and,
          List.forall_mem_cons]
        constructor
        · rintro ⟨hnodup, hrest⟩
          exact ⟨⟨fun other ho => (hrest other ho).1.symm, hnodup⟩, hfree,
            fun other ho => (hrest other ho).2⟩
        · rintro ⟨⟨hnew, hnodup⟩, -, hrest⟩
          exact ⟨hnodup, fun other ho => ⟨Ne.symm (hnew other ho), hrest other ho⟩⟩
      · have hname : earlier.name = constant.name := by simpa using List.find?_some hfind
        simp only [hfind, reduceCtorEq, false_iff, not_and]
        intro _ hfree
        exact hfree constant (List.mem_cons_self ..) earlier (List.mem_of_find?_eq_some hfind) hname

lemma clash?_eq_none_iff {constants : List Constant} :
    clash? constants = none ↔ (constants.map (·.name)).Nodup := by
  simp only [clash?, clashFrom?_eq_none_iff, List.not_mem_nil, false_implies, implies_true, and_true]

/-- **A group is renamed** if its new names tell the constants apart. -/
theorem rename_eq_ok_iff {group renamed : Group} {convention : Text.NameCase} :
    group.rename convention = .ok renamed ↔
      renamed = group.named convention ∧ (renamed.constants.map (·.name)).Nodup := by
  unfold rename Group.renamed nameFailure?
  rcases hclash : clash? (group.named convention).constants with _ | clash
  · have hnodup := clash?_eq_none_iff.mp hclash
    simp only [hclash, Option.map_none, pure, Except.pure, Except.ok.injEq]
    constructor
    · rintro rfl
      exact ⟨rfl, hnodup⟩
    · exact fun h => h.1.symm
  · simp only [hclash, Option.map_some, throw, throwThe, MonadExceptOf.throw, reduceCtorEq, false_iff,
      not_and]
    rintro rfl hnodup
    rw [clash?_eq_none_iff.mpr hnodup] at hclash
    cases hclash

/-- A convention which tells constants apart by their names goes by their identifiers. -/
lemma nodup_idents_named {group : Group} {convention : Text.NameCase}
    (h : ((group.named convention).constants.map (·.name)).Nodup) :
    ((group.named convention).constants.map (·.ident.text)).Nodup := by
  refine List.Nodup.of_map convention.apply ?_
  simpa only [named, List.map_map, Function.comp_def] using h

end EnumTables.Group
