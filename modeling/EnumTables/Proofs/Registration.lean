import EnumTables.Enumeration.Register
import Mathlib.Data.List.Nodup

/-!
# Which definitions are registered

A registration takes the members of its definition one by one, looks for the first rule which they break,
and takes its settings if there is none.

* `isUnique_eq_true_iff` — the look for a value which was seen before ends early, and finds nothing exactly
  if all values are distinct.
* `takeAll_eq` — all items are taken.
* `reason?` and `register_eq` — what a registration comes to, said of the definition as a whole.
* `FirstBroken` — the first rule which a definition breaks, said without an order of tests.
* `Decided` — the answer of a registration, and how much of its arguments it takes.
-/

namespace EnumTables.Enumeration

variable {S N α β γ : Type}

/-! ## Distinct values -/

/-- Nothing is found twice if the values are distinct, and none of them was seen before. -/
lemma isUniqueBehind_eq_true_iff [DecidableEq α] {seen values : List α} :
    isUniqueBehind seen values = true ↔ values.Nodup ∧ ∀ value ∈ values, value ∉ seen := by
  induction values generalizing seen with
  | nil => simp [isUniqueBehind]
  | cons value rest ih =>
      rw [isUniqueBehind, List.nodup_cons, List.forall_mem_cons]
      split_ifs with hseen
      · simp only [hseen, not_true_eq_false, false_and, and_false]
      · rw [ih]
        simp only [List.mem_cons, not_or]
        constructor
        · rintro ⟨hnodup, hnew⟩
          exact ⟨⟨fun hmem => (hnew value hmem).1 rfl, hnodup⟩, hseen, fun other ho => (hnew other ho).2⟩
        · rintro ⟨⟨hvalue, hnodup⟩, -, hnew⟩
          refine ⟨hnodup, fun other ho => ⟨?_, hnew other ho⟩⟩
          rintro rfl
          exact hvalue ho

/-- **No value is found twice exactly if the values are distinct.** -/
theorem isUnique_eq_true_iff [DecidableEq α] {values : List α} :
    isUnique values = true ↔ values.Nodup := by
  simp only [isUnique, isUniqueBehind_eq_true_iff, List.not_mem_nil, not_false_eq_true, implies_true,
    and_true]

/-! ## Taking items -/

/-- All items are taken, in order. -/
lemma takeAll_eq (step : β → α → β) (start : β) (items : List α) :
    takeAll step start items = (items.foldl step start, items.length) := by
  induction items generalizing start with
  | nil => rfl
  | cons item rest ih => rw [takeAll, ih, List.foldl_cons, List.length_cons]

/-- The members are taken apart into their names and their indices, behind those which were there. -/
lemma foldl_withMember (definition : List (S × N)) (sides : List S × List N) :
    definition.foldl withMember sides =
      (sides.1 ++ definition.map Prod.fst, sides.2 ++ definition.map Prod.snd) := by
  induction definition generalizing sides with
  | nil => simp only [List.foldl_nil, List.map_nil, List.append_nil]
  | cons member rest ih =>
      rw [List.foldl_cons, ih, withMember]
      simp only [List.map_cons, List.append_assoc, List.singleton_append]

lemma takeAll_withMember (definition : List (S × N)) :
    takeAll withMember ([], []) definition =
      ((definition.map Prod.fst, definition.map Prod.snd), definition.length) := by
  rw [takeAll_eq, foldl_withMember, List.nil_append, List.nil_append]

/-! ## Definitions as a whole -/

/-- **Whether a definition breaks a rule.** -/
def Reason.Broken (id : String) (definition : List (S × N)) : Reason → Prop
  | noId => id = ""
  | noMembers => definition = []
  | sameIndexes => ¬ (definition.map Prod.snd).Nodup
  | sameNames => ¬ (definition.map Prod.fst).Nodup

/-- The rules in the order in which they count. -/
def Reason.order : List Reason := [noId, noMembers, sameIndexes, sameNames]

/-- **The first rule which a definition breaks**: it breaks none of those which go before. -/
def FirstBroken (id : String) (definition : List (S × N)) (reason : Reason) : Prop :=
  ∃ before behind, Reason.order = before ++ reason :: behind ∧ reason.Broken id definition ∧
    ∀ earlier ∈ before, ¬ earlier.Broken id definition

variable [DecidableEq S] [DecidableEq N] {names : MemberType S} {indexes : MemberType N} {id : String}
  {definition : List (S × N)} {settings : List (Setting S N)} {enumeration : Enumeration S N}

instance : DecidablePred (Reason.Broken id definition)
  | .noId => inferInstanceAs (Decidable (id = ""))
  | .noMembers => inferInstanceAs (Decidable (definition = []))
  | .sameIndexes => inferInstanceAs (Decidable (¬ (definition.map Prod.snd).Nodup))
  | .sameNames => inferInstanceAs (Decidable (¬ (definition.map Prod.fst).Nodup))

/-- The rule which a registration of the definition reports, if any. -/
def reason? (id : String) (definition : List (S × N)) : Option Reason :=
  if id = "" then some .noId
  else memberReason? (definition.map Prod.fst) (definition.map Prod.snd)

/-- The rule which is reported is found by going through the rules in their order. -/
lemma reason?_eq_find? :
    reason? id definition = Reason.order.find? fun reason => reason.Broken id definition := by
  have hempty : (definition.map Prod.fst).isEmpty = decide (definition = []) := by
    rw [Bool.eq_iff_iff, List.isEmpty_iff, List.map_eq_nil_iff, decide_eq_true_iff]
  have hunique : ∀ {α : Type} [DecidableEq α] (values : List α),
      (!isUnique values) = decide (¬ values.Nodup) := by
    intro α _ values
    rw [Bool.eq_iff_iff, Bool.not_eq_true', ← Bool.not_eq_true, isUnique_eq_true_iff, decide_eq_true_iff]
  unfold reason? memberReason? Reason.order
  simp only [hempty, hunique, decide_eq_true_iff, List.find?_cons, Reason.Broken, List.find?_nil]
  split_ifs <;> simp [*]

/-- **A registration reports the first rule which the definition breaks.** -/
lemma reason?_eq_some_iff {reason : Reason} :
    reason? id definition = some reason ↔ FirstBroken id definition reason := by
  simp only [reason?_eq_find?, List.find?_eq_some_iff_append, decide_eq_true_iff, Bool.not_eq_true',
    decide_eq_false_iff_not]
  constructor
  · rintro ⟨hbroken, before, behind, horder, hearlier⟩
    exact ⟨before, behind, horder, hbroken, hearlier⟩
  · rintro ⟨before, behind, horder, hbroken, hearlier⟩
    exact ⟨hbroken, before, behind, horder, hearlier⟩

/-- A definition breaks no rule if it has an id and a member, and nothing twice. -/
lemma reason?_eq_none_iff :
    reason? id definition = none ↔
      id ≠ "" ∧ definition ≠ [] ∧ (definition.map Prod.snd).Nodup ∧ (definition.map Prod.fst).Nodup := by
  simp only [reason?_eq_find?, List.find?_eq_none, decide_eq_true_iff]
  simp only [Reason.order, List.forall_mem_cons, Reason.Broken, not_not, List.not_mem_nil, false_implies,
    implies_true, and_true, ne_eq]

/-! ## Registrations -/

/-- **What a registration comes to**, by the rule which it reports. -/
lemma register_eq (names : MemberType S) (indexes : MemberType N) (id : String)
    (definition : List (S × N)) (settings : List (Setting S N)) :
    register names indexes id definition settings =
      match reason? id definition with
      | some reason =>
        { outcome := .error (.definition id reason.message)
          taken := if id = "" then .nothing else ⟨definition.length, 0⟩ }
      | none =>
        { outcome := .ok (settings.foldl (fun enumeration setting => setting.adjust enumeration)
            (defined names indexes id definition))
          taken := ⟨definition.length, settings.length⟩ } := by
  unfold register reason?
  by_cases hid : id = ""
  · simp only [hid, if_true]
  · simp only [hid, if_false, takeAll_withMember]
    rcases memberReason? (definition.map Prod.fst) (definition.map Prod.snd) with _ | reason
    · simp only [takeAll_eq, defined]
    · rfl

/-- What is registered is the definition with all settings applied. -/
lemma outcome_register_eq_ok_iff :
    (register names indexes id definition settings).outcome = .ok enumeration ↔
      reason? id definition = none ∧
        enumeration = settings.foldl (fun enumeration setting => setting.adjust enumeration)
          (defined names indexes id definition) := by
  rw [register_eq]
  rcases reason? id definition with _ | reason
  · simp only [Except.ok.injEq, true_and, eq_comm]
  · simp only [reduceCtorEq, false_and]

/-- A definition which breaks no rule is registered as it is. -/
lemma outcome_register (hid : id ≠ "") (hm : definition ≠ []) (hi : (definition.map Prod.snd).Nodup)
    (hn : (definition.map Prod.fst).Nodup) :
    (register names indexes id definition []).outcome = .ok (defined names indexes id definition) :=
  outcome_register_eq_ok_iff.mpr ⟨reason?_eq_none_iff.mpr ⟨hid, hm, hi, hn⟩, rfl⟩

/-- A definition which breaks a rule is rejected for the first one. -/
lemma outcome_register_eq_error_iff {rejection : Rejection} :
    (register names indexes id definition settings).outcome = .error rejection ↔
      ∃ reason, FirstBroken id definition reason ∧ rejection = .definition id reason.message := by
  simp only [← reason?_eq_some_iff]
  rw [register_eq]
  rcases reason? id definition with _ | reason
  · simp only [reduceCtorEq, false_and, exists_false]
  · simp only [Except.error.injEq, Option.some_inj, exists_eq_left', eq_comm]

/-- It is rejected for a rule which it breaks if it breaks none of those in front of it. -/
lemma outcome_register_of_broken (reason : Reason) (before : List Reason) {behind : List Reason}
    (horder : Reason.order = before ++ reason :: behind) (hbroken : reason.Broken id definition)
    (hbefore : ∀ earlier ∈ before, ¬ earlier.Broken id definition) :
    (register names indexes id definition settings).outcome = .error (.definition id reason.message) :=
  outcome_register_eq_error_iff.mpr ⟨reason, ⟨before, behind, horder, hbroken, hbefore⟩, rfl⟩

/-- **The answer of a registration, and how much of its arguments it takes.** -/
structure Decided (id : String) (definition : List (S × N)) (settings : List (Setting S N))
    (registration : Registration S N) : Prop where
  /-- A definition is accepted if it has an id and a member, and no index and no name twice. -/
  accepted : (∃ enumeration, registration.outcome = .ok enumeration) ↔
    id ≠ "" ∧ definition ≠ [] ∧ (definition.map Prod.snd).Nodup ∧ (definition.map Prod.fst).Nodup
  /-- If not, it is rejected under its id, for the first rule which it breaks. -/
  rejected : ∀ rejection, registration.outcome = .error rejection ↔
    ∃ reason, FirstBroken id definition reason ∧ rejection = .definition id reason.message
  /-- The id is looked at before anything else. -/
  idFirst : id = "" → registration.outcome = .error (.definition id "id is required!")
  /-- Then there has to be a member. -/
  membersNext : id ≠ "" → definition = [] →
    registration.outcome = .error (.definition id "definition is required!")
  /-- Indices are looked at before names: if one occurs twice, the names do not matter. -/
  indexesNext : id ≠ "" → ¬ (definition.map Prod.snd).Nodup →
    registration.outcome = .error (.definition id "indexes must be unique!")
  /-- Names are looked at last. -/
  namesLast : id ≠ "" → (definition.map Prod.snd).Nodup → ¬ (definition.map Prod.fst).Nodup →
    registration.outcome = .error (.definition id "names must be unique!")
  /-- Without an id nothing is taken. -/
  untouched : id = "" → registration.taken = .nothing
  /-- With an id, the whole definition is taken. -/
  members : id ≠ "" → registration.taken.members = definition.length
  /-- The settings are taken if the definition is accepted, and then all of them. -/
  settings : registration.taken.settings = if registration.outcome.isOk then settings.length else 0

/-- **Registration accepts exactly the definitions which break no rule.**  It rejects all others for the
first rule which they break, and takes no more of its arguments than it has to. -/
theorem decided_register (names : MemberType S) (indexes : MemberType N) (id : String)
    (definition : List (S × N)) (settings : List (Setting S N)) :
    Decided id definition settings (register names indexes id definition settings) where
  accepted := by
    simp only [outcome_register_eq_ok_iff, exists_and_left, exists_eq, and_true, reason?_eq_none_iff]
  rejected _ := outcome_register_eq_error_iff
  idFirst hid := outcome_register_of_broken .noId [] rfl hid (List.forall_mem_nil _)
  membersNext hid hm := outcome_register_of_broken .noMembers [.noId] rfl hm
    (List.forall_mem_singleton.mpr hid)
  indexesNext hid hi := by
    have hm : definition ≠ [] := by
      rintro rfl
      exact hi List.nodup_nil
    exact outcome_register_of_broken .sameIndexes [.noId, .noMembers] rfl hi
      (List.forall_mem_cons.mpr ⟨hid, List.forall_mem_singleton.mpr hm⟩)
  namesLast hid hi hn := by
    have hm : definition ≠ [] := by
      rintro rfl
      exact hn List.nodup_nil
    exact outcome_register_of_broken .sameNames [.noId, .noMembers, .sameIndexes] rfl hn
      (List.forall_mem_cons.mpr ⟨hid, List.forall_mem_cons.mpr ⟨hm, List.forall_mem_singleton.mpr
        (not_not_intro hi)⟩⟩)
  untouched hid := by
    rw [register, if_pos hid]
  members hid := by
    rw [register_eq]
    rcases reason? id definition with _ | reason
    · rfl
    · simp only [hid, if_false]
  settings := by
    rw [register_eq]
    rcases reason? id definition with _ | reason
    · rfl
    · by_cases hid : id = ""
      · simp only [hid, if_true]
        rfl
      · simp only [hid, if_false]
        rfl

end EnumTables.Enumeration
