import EnumTables.Proofs.Distinctness

/-!
# Renaming has no history

A group is renamed by any number of conventions, one behind the other, whether or not their names can be
used.  All that is left of it is the last convention: the names are those which it makes of the identifiers,
everything else is as it was, and the failure, if there is one, is that of a group which was never renamed
before.

* `afterAll` — a group behind a run of renamings.
* `named_afterAll` — a run of renamings leaves nothing for the next one to see.
* `unique_named` — names do not matter for which constants are first.
* `FirstClash` and `clash?_eq_some_iff` — the first name which is taken, and by whom.
* `RenamedBy` — the group and the failure which a renaming leaves, said of the group before all renamings.
-/

namespace EnumTables.Group

open EnumTables.Constants EnumTables.Text

variable {group : Group} {convention : NameCase}

/-! ## Runs of renamings -/

/-- A constant with the name which a convention makes of its identifier. -/
def Constant.named (convention : NameCase) (constant : Constant) : Constant :=
  { constant with name := convention.apply constant.ident.text }

/-- The group which is left by renamings one behind the other, of which each may fail. -/
def afterAll (group : Group) (conventions : List NameCase) : Group :=
  conventions.foldl (fun group convention => (group.renamed convention).group) group

/-- A renaming leaves nothing for the next one to see: both begin with the identifiers. -/
lemma named_renamed (group : Group) (earlier convention : NameCase) :
    ((group.renamed earlier).group).named convention = group.named convention := by
  simp only [renamed, named, List.map_map, Function.comp_def]

/-- Neither does a run of renamings. -/
lemma named_afterAll (group : Group) (conventions : List NameCase) (convention : NameCase) :
    (group.afterAll conventions).named convention = group.named convention := by
  induction conventions generalizing group with
  | nil => rfl
  | cons first rest ih =>
      rw [afterAll, List.foldl_cons]
      exact (ih (group.renamed first).group).trans (named_renamed group first convention)

/-- **The last renaming of a run is that of a group which was never renamed before.** -/
theorem renamed_afterAll (group : Group) (conventions : List NameCase) (convention : NameCase) :
    (group.afterAll conventions).renamed convention = group.renamed convention := by
  simp only [renamed, named_afterAll]

/-! ## First constants -/

/-- Constants may be changed in all but their values before the first ones are selected. -/
lemma firstsFrom_map {f : Constant → Constant} (hf : ∀ constant, (f constant).value = constant.value)
    (seen : List Int) (constants : List Constant) :
    firstsFrom seen (constants.map f) = (firstsFrom seen constants).map f := by
  induction constants generalizing seen with
  | nil => rfl
  | cons constant rest ih =>
      rw [List.map_cons, firstsFrom, firstsFrom, hf]
      split_ifs
      · exact ih seen
      · rw [ih, List.map_cons]

/-- Names do not matter for which constants are first. -/
lemma unique_named : (group.named convention).unique = group.unique.map (Constant.named convention) :=
  firstsFrom_map (f := Constant.named convention) (fun _ => rfl) [] group.constants

/-! ## Clashes -/

/-- **The first clash of names**: all names before `place` are distinct, and that at `place` is also the one
at `earlier`, and at no other place before. -/
structure FirstClash (names : List String) (earlier place : Nat) (name : String) : Prop where
  before : earlier < place
  taken : names[earlier]? = some name
  again : names[place]? = some name
  alone : ∀ other < place, names[other]? = some name → other = earlier
  distinct : (names.take place).Nodup

/-- Before the constants at hand there may be others with distinct names, which take names, too. -/
lemma clashFrom?_eq_some_iff {before constants : List Constant} {constant previous : Constant}
    (hbefore : (before.map (·.name)).Nodup) :
    clashFrom? before constants = some (constant, previous) ↔
      ∃ front behind, constants = front ++ constant :: behind ∧
        ((front.reverse ++ before).map (·.name)).Nodup ∧ previous ∈ front.reverse ++ before ∧
        previous.name = constant.name := by
  induction constants generalizing before with
  | nil => simp [clashFrom?]
  | cons first rest ih =>
      rw [clashFrom?]
      rcases hfind : before.find? (·.name == first.name) with _ | taker
      · have hfree : ∀ earlier ∈ before, earlier.name ≠ first.name := by
          simpa only [List.find?_eq_none, beq_iff_eq] using hfind
        have hnext : ((first :: before).map (·.name)).Nodup := by
          refine List.nodup_cons.mpr ⟨?_, hbefore⟩
          rw [List.mem_map]
          rintro ⟨earlier, he, hname⟩
          exact hfree earlier he hname
        simp only [hfind]
        rw [ih hnext]
        constructor
        · rintro ⟨front, behind, rfl, hnodup, hmem, hname⟩
          refine ⟨first :: front, behind, rfl, ?_, ?_, hname⟩
          · simpa using hnodup
          · simpa using hmem
        · rintro ⟨_ | ⟨_, front⟩, behind, hsplit, hnodup, hmem, hname⟩
          · cases hsplit
            exact absurd hname (hfree previous hmem)
          · cases hsplit
            refine ⟨front, behind, rfl, ?_, ?_, hname⟩
            · simpa using hnodup
            · simpa using hmem
      · have htaker : taker ∈ before := List.mem_of_find?_eq_some hfind
        have hname : taker.name = first.name := by simpa using List.find?_some hfind
        simp only [hfind, Option.some.injEq, Prod.mk.injEq]
        constructor
        · rintro ⟨rfl, rfl⟩
          exact ⟨[], rest, rfl, hbefore, htaker, hname⟩
        · rintro ⟨_ | ⟨_, front⟩, behind, hsplit, hnodup, hmem, hprevious⟩
          · cases hsplit
            exact ⟨rfl, List.inj_on_of_nodup_map hbefore htaker hmem (hname.trans hprevious.symm)⟩
          · -- the first constant would be before the clash, although its name is taken
            cases hsplit
            rw [List.map_append, List.nodup_append'] at hnodup
            have hfirst : first.name ∈ (first :: front).reverse.map (·.name) :=
              List.mem_map_of_mem (List.mem_reverse.mpr (List.mem_cons_self ..))
            exact absurd (hname ▸ List.mem_map_of_mem htaker) (hnodup.2.2 hfirst)

/-- **The constant whose name is taken is the one at the first clash**, and the other one is that at the
place where the name was taken. -/
lemma clash?_eq_some_iff {constants : List Constant} {constant previous : Constant} :
    clash? constants = some (constant, previous) ↔
      ∃ earlier place name, FirstClash (constants.map (·.name)) earlier place name ∧
        constants[earlier]? = some previous ∧ constants[place]? = some constant := by
  have hnone : (([] : List Constant).map (·.name)).Nodup := List.nodup_nil
  rw [clash?, clashFrom?_eq_some_iff hnone]
  constructor
  · rintro ⟨front, behind, rfl, hnodup, hmem, hname⟩
    simp only [List.append_nil, List.map_reverse, List.nodup_reverse, List.mem_reverse] at hnodup hmem
    obtain ⟨earlier, hearlier⟩ := List.mem_iff_getElem?.mp hmem
    have hlt : earlier < front.length := (List.getElem?_eq_some_iff.mp hearlier).1
    have hat : ∀ other < front.length, ((front ++ constant :: behind).map (·.name))[other]? =
        (front.map (·.name))[other]? := by
      intro other ho
      rw [List.map_append, List.getElem?_append_left (by simpa using ho)]
    refine ⟨earlier, front.length, constant.name, ⟨hlt, ?_, ?_, ?_, ?_⟩, ?_, ?_⟩
    · rw [hat earlier hlt, List.getElem?_map, hearlier, Option.map_some, hname]
    · simp
    · intro other ho hother
      rw [hat other ho] at hother
      refine (List.getElem?_inj (by simpa using ho) hnodup).mp (hother.trans ?_)
      rw [List.getElem?_map, hearlier, Option.map_some, hname]
    · simpa using hnodup
    · rw [List.getElem?_append_left hlt, hearlier]
    · simp
  · rintro ⟨earlier, place, name, hclash, hearlier, hplace⟩
    obtain ⟨hbound, rfl⟩ := List.getElem?_eq_some_iff.mp hplace
    have hsplit : constants = constants.take place ++ constants[place] :: constants.drop (place + 1) := by
      rw [← List.drop_eq_getElem_cons hbound, List.take_append_drop]
    refine ⟨constants.take place, constants.drop (place + 1), hsplit, ?_, ?_, ?_⟩
    · simpa [List.map_take] using hclash.distinct
    · rw [List.append_nil, List.mem_reverse, List.mem_iff_getElem?]
      exact ⟨earlier, by rw [List.getElem?_take_of_lt hclash.before, hearlier]⟩
    · have htaken := hclash.taken
      have hagain := hclash.again
      rw [List.getElem?_map, hearlier, Option.map_some] at htaken
      rw [List.getElem?_map, hplace, Option.map_some] at hagain
      exact Option.some_inj.mp (htaken.trans hagain.symm)

/-! ## Renamings -/

/-- The names which a convention makes of the constants of a group. -/
def newNames (group : Group) (convention : NameCase) : List String :=
  group.constants.map fun constant => convention.apply constant.ident.text

lemma names_named : (group.named convention).constants.map (·.name) = group.newNames convention := by
  simp only [named, newNames, List.map_map, Function.comp_def]

/-- **What a renaming leaves of a group.** -/
structure RenamedBy (group : Group) (convention : NameCase) (after : Renamed) : Prop where
  /-- Each constant has the name of the convention, and all else is as it was. -/
  group_eq : after.group = { group with constants := group.constants.map (Constant.named convention) }
  /-- The same constants as before are the first ones of their values. -/
  unique_eq : after.group.unique = group.unique.map (Constant.named convention)
  /-- It fails if two names are the same. -/
  fails : after.failure?.isSome = true ↔
    ∃ (earlier place : Nat) (name : String), earlier < place ∧
      (group.newNames convention)[earlier]? = some name ∧ (group.newNames convention)[place]? = some name
  /-- The failure is that of the first clash, and says which constant took the name. -/
  failure : ∀ failure, after.failure? = some failure ↔
    ∃ earlier place name constant previous, FirstClash (group.newNames convention) earlier place name ∧
      group.constants[earlier]? = some previous ∧ group.constants[place]? = some constant ∧
      failure = ⟨.nameTaken name previous.ident.text, constant.ident.span⟩
  succeeds : after.failure? = none ↔ (group.newNames convention).Nodup
  /-- Names tell constants apart only if their identifiers do, and these are names, too. -/
  idents : after.failure? = none → (group.constants.map (·.ident.text)).Nodup
  verbatim : after.failure? = none → (group.renamed .verbatim).failure? = none

lemma failure?_renamed_eq_none_iff :
    (group.renamed convention).failure? = none ↔ (group.newNames convention).Nodup := by
  rw [renamed, nameFailure?, Option.map_eq_none_iff, clash?_eq_none_iff, names_named]

lemma nodup_idents_of_newNames (h : (group.newNames convention).Nodup) :
    (group.constants.map (·.ident.text)).Nodup := by
  have hnamed := nodup_idents_named (names_named ▸ h)
  simpa only [named, List.map_map, Function.comp_def] using hnamed

lemma failure?_renamed_eq_some_iff {failure : Failure} :
    (group.renamed convention).failure? = some failure ↔
      ∃ earlier place name constant previous, FirstClash (group.newNames convention) earlier place name ∧
        group.constants[earlier]? = some previous ∧ group.constants[place]? = some constant ∧
        failure = ⟨.nameTaken name previous.ident.text, constant.ident.span⟩ := by
  have hconstants : (group.named convention).constants = group.constants.map (Constant.named convention) :=
    rfl
  simp only [renamed, nameFailure?, Option.map_eq_some_iff, Prod.exists, clash?_eq_some_iff, names_named]
  constructor
  · rintro ⟨_, _, ⟨earlier, place, name, hclash, hearlier, hplace⟩, rfl⟩
    have hname := hclash.again
    rw [← names_named, List.getElem?_map, hplace, Option.map_some, Option.some_inj] at hname
    rw [hconstants, List.getElem?_map, Option.map_eq_some_iff] at hearlier hplace
    obtain ⟨previous, hprevious, rfl⟩ := hearlier
    obtain ⟨constant, hconstant, rfl⟩ := hplace
    refine ⟨earlier, place, name, constant, previous, hclash, hprevious, hconstant, ?_⟩
    rw [hname]
    rfl
  · rintro ⟨earlier, place, name, constant, previous, hclash, hearlier, hplace, rfl⟩
    have hname := hclash.again
    rw [newNames, List.getElem?_map, hplace, Option.map_some, Option.some_inj] at hname
    refine ⟨constant.named convention, previous.named convention, ⟨earlier, place, name, hclash, ?_, ?_⟩, ?_⟩
    · rw [hconstants, List.getElem?_map, hearlier, Option.map_some]
    · rw [hconstants, List.getElem?_map, hplace, Option.map_some]
    · rw [← hname]
      rfl

lemma isSome_failure?_renamed_iff :
    (group.renamed convention).failure?.isSome = true ↔
      ∃ (earlier place : Nat) (name : String), earlier < place ∧
        (group.newNames convention)[earlier]? = some name ∧
        (group.newNames convention)[place]? = some name := by
  rw [← Option.ne_none_iff_isSome, ne_eq, failure?_renamed_eq_none_iff,
    List.nodup_iff_getElem?_ne_getElem?]
  push Not
  constructor
  · rintro ⟨earlier, place, hlt, hbound, hsame⟩
    have hplace := List.getElem?_eq_getElem hbound
    exact ⟨earlier, place, _, hlt, hsame.trans hplace, hplace⟩
  · rintro ⟨earlier, place, name, hlt, hearlier, hplace⟩
    exact ⟨earlier, place, hlt, (List.getElem?_eq_some_iff.mp hplace).1, hearlier.trans hplace.symm⟩

/-- **Renaming has no history**: behind any run of renamings, failed ones among them, a renaming leaves what
it leaves of the group before all of them. -/
theorem renamedBy_afterAll (group : Group) (conventions : List NameCase) (convention : NameCase) :
    RenamedBy group convention ((group.afterAll conventions).renamed convention) := by
  rw [renamed_afterAll]
  exact {
    group_eq := rfl
    unique_eq := unique_named
    fails := isSome_failure?_renamed_iff
    failure := fun _ => failure?_renamed_eq_some_iff
    succeeds := failure?_renamed_eq_none_iff
    idents := fun h => nodup_idents_of_newNames (failure?_renamed_eq_none_iff.mp h)
    verbatim := fun h =>
      failure?_renamed_eq_none_iff.mpr (nodup_idents_of_newNames (failure?_renamed_eq_none_iff.mp h)) }

end EnumTables.Group
