import EnumTables.Generation.Host
import Mathlib.Data.List.Basic

/-!
# Written files can be read

The text which was written to a path is what is read from the path afterwards.  The way to a file does not
depend on what is in it: the same pieces lead to the same places before and after it was written.

* `Spot.filled` — where a path leads once a file was written.
* `walk_put` — the pieces of a path lead to the same place as before.
* `read_of_write` — what was written is read.
-/

namespace EnumTables.Files

variable {store after : Store} {place : Place} {bytes : ByteArray} {spot next : Spot}
  {pieces : List (List Char)} {path text : String}

/-! ## Slashes behind a path -/

/-- An empty piece behind others stands for a slash at the end. -/
lemma intercalate_append_nil {before : List (List Char)} (h : before ≠ []) :
    ['/'].intercalate (before ++ [[]]) = ['/'].intercalate before ++ ['/'] := by
  induction before with
  | nil => exact absurd rfl h
  | cons piece rest ih =>
      cases rest with
      | nil => simp [List.intercalate]
      | cons second rest =>
          have hrest := ih (List.cons_ne_nil _ _)
          simp only [List.cons_append] at hrest ⊢
          rw [List.intercalate_cons_cons, List.intercalate_cons_cons, hrest]
          simp only [List.append_assoc]

/-- The last piece of a text which does not end with a slash is not empty. -/
lemma getLast?_splitOn_ne_nil {cs : List Char} (hne : cs ≠ []) (hslash : ¬ ['/'] <:+ cs) :
    (cs.splitOn '/').getLast? ≠ some [] := by
  intro hlast
  obtain ⟨before, hsplit⟩ := List.getLast?_eq_some_iff.mp hlast
  have hjoin : ['/'].intercalate (cs.splitOn '/') = cs := List.intercalate_splitOn '/'
  rw [hsplit] at hjoin
  by_cases hbefore : before = []
  · exact hne (by simpa [hbefore] using hjoin.symm)
  · rw [intercalate_append_nil hbefore] at hjoin
    exact hslash ⟨_, hjoin⟩

/-- The pieces of a path which does not end with a slash do not end with an empty one. -/
lemma getLast?_pieces_ne_nil (hne : path ≠ "") (hslash : path.endsWith "/" = false) :
    (FilePath.ofText path).pieces.getLast? ≠ some [] := by
  have hcs : path.toList ≠ [] := by simpa using hne
  rw [← String.endsWith_toSlice, String.Slice.endsWith_string_eq_false_iff, String.copy_toSlice] at hslash
  unfold FilePath.ofText
  split
  · rename_i rest hrest
    rw [hrest] at hslash
    refine getLast?_splitOn_ne_nil ?_ fun hsuffix => hslash (hsuffix.trans (List.suffix_cons _ _))
    rintro rfl
    exact hslash (List.suffix_refl _)
  · exact getLast?_splitOn_ne_nil hcs hslash

/-- Without slashes at its end, a path has none to leave out. -/
lemma withoutSlashes_eq {path : FilePath} (h : path.pieces.getLast? ≠ some []) :
    Store.withoutSlashes path = path := by
  have hpieces : (path.pieces.reverse.dropWhile (·.isEmpty)).reverse = path.pieces := by
    rw [List.reverse_eq_iff]
    rw [List.getLast?_eq_head?_reverse] at h
    rcases hreverse : path.pieces.reverse with _ | ⟨last, rest⟩
    · rfl
    · have hlast : last ≠ [] := fun hnil => h (by rw [hreverse, hnil, List.head?_cons])
      rw [List.dropWhile_cons_of_neg (by simpa using hlast)]
  rw [Store.withoutSlashes, hpieces]

/-! ## Ways in a tree with another file -/

/-- Where a path leads once a file was written: to the file instead of to what was at its place. -/
def Spot.filled (place : Place) (bytes : ByteArray) : Spot → Spot
  | .file other before => if other = place then .file place bytes else .file other before
  | .vacant other => if other = place then .file place bytes else .vacant other
  | .outside => .outside
  | .directory other => .directory other

/-- A place at which a file can be. -/
def Store.Writable (store : Store) (place : Place) : Prop := store.find? place ≠ some .directory

lemma Store.Writable.ne_nil (h : store.Writable place) : place ≠ [] := by
  rintro rfl
  exact h rfl

lemma spotAt_put (hw : store.Writable place) (other : Place) :
    (store.put place (.file bytes)).spotAt other = (store.spotAt other).filled place bytes := by
  unfold Store.spotAt
  rw [Store.find?_put store hw.ne_nil]
  by_cases hsame : other = place
  · subst hsame
    rcases hfind : store.find? other with _ | _ | before
    · simp [Spot.filled]
    · exact absurd hfind hw
    · simp [Spot.filled]
  · rw [if_neg hsame]
    rcases store.find? other with _ | _ | before
    · simp [Spot.filled, hsame]
    · rfl
    · simp [Spot.filled, hsame]

lemma step_put (hw : store.Writable place) {piece : List Char} (h : store.step spot piece = .ok next) :
    (store.put place (.file bytes)).step (spot.filled place bytes) piece = .ok (next.filled place bytes) := by
  cases spot with
  | outside =>
      rw [Spot.filled]
      simp only [Store.step] at h ⊢
      split_ifs at h ⊢
      cases h
      rfl
  | directory q =>
      rw [Spot.filled]
      simp only [Store.step] at h ⊢
      split_ifs at h ⊢ <;> cases h
      · rfl
      · rfl
      · rfl
      · rw [spotAt_put hw]
  | file | vacant => cases h

/-- **The pieces of a path lead to the same place as before**, as far as they led anywhere. -/
lemma walk_put (hw : store.Writable place) (h : pieces.foldlM store.step spot = .ok next) :
    pieces.foldlM (store.put place (.file bytes)).step (spot.filled place bytes) =
      .ok (next.filled place bytes) := by
  induction pieces generalizing spot with
  | nil =>
      cases h
      rfl
  | cons piece rest ih =>
      rw [List.foldlM_cons] at h ⊢
      rcases hstep : store.step spot piece with trouble | between
      · rw [hstep] at h
        cases h
      · rw [hstep] at h
        rw [step_put hw hstep]
        exact ih h

/-! ## Where a path leads to -/

/-- What a way says of its end is so. -/
def Spot.Stands (store : Store) : Spot → Prop
  | .file place bytes => store.find? place = some (.file bytes)
  | .vacant place => store.find? place = none
  | .outside | .directory _ => True

lemma stands_spotAt (store : Store) (place : Place) : (store.spotAt place).Stands store := by
  unfold Store.spotAt
  split
  · trivial
  · assumption
  · assumption

lemma stands_step {piece : List Char} (h : store.step spot piece = .ok next) : next.Stands store := by
  cases spot with
  | outside =>
      simp only [Store.step] at h
      split_ifs at h
      cases h
      trivial
  | directory q =>
      simp only [Store.step] at h
      split_ifs at h <;> cases h
      · trivial
      · trivial
      · trivial
      · exact stands_spotAt store _
  | file | vacant => cases h

lemma stands_walk (hs : spot.Stands store) (h : pieces.foldlM store.step spot = .ok next) :
    next.Stands store := by
  induction pieces generalizing spot with
  | nil =>
      cases h
      exact hs
  | cons piece rest ih =>
      rw [List.foldlM_cons] at h
      rcases hstep : store.step spot piece with trouble | between
      · rw [hstep] at h
        cases h
      · rw [hstep] at h
        exact ih (stands_step hstep) h

/-! ## Reading behind writing -/

/-- A file is written where its path leads to, if no directory is there. -/
lemma target_eq_ok_iff :
    store.target path = .ok place ↔ refusal? path = none ∧ path.endsWith "/" = false ∧
      ((∃ before, store.walk (Store.withoutSlashes (.ofText path)) = .ok (.file place before)) ∨
        store.walk (Store.withoutSlashes (.ofText path)) = .ok (.vacant place)) := by
  unfold Store.target
  rcases refusal? path with _ | trouble
  · rcases store.walk (Store.withoutSlashes (.ofText path)) with trouble | _ | _ | ⟨q, before⟩ | q
    · simp [bind, Except.bind]
    · simp [bind, Except.bind]
    · simp [bind, Except.bind]
    · cases path.endsWith "/" <;> simp [bind, Except.bind]
    · cases path.endsWith "/" <;> simp [bind, Except.bind]
  · simp

/-- **A path which leads to a place for a file leads to the file**, once it was written. -/
lemma walk_written {path : FilePath}
    (h : (∃ before, store.walk path = .ok (.file place before)) ∨ store.walk path = .ok (.vacant place)) :
    (store.put place (.file bytes)).walk path = .ok (.file place bytes) := by
  have hstart : (if path.rooted then Spot.outside else .directory []).filled place bytes =
      if path.rooted then Spot.outside else .directory [] := by
    split_ifs <;> rfl
  have hstands : (if path.rooted then Spot.outside else .directory []).Stands store := by
    split_ifs <;> trivial
  obtain ⟨next, hwalk, hw, hfilled⟩ : ∃ next : Spot, store.walk path = .ok next ∧
      store.Writable place ∧ next.filled place bytes = .file place bytes := by
    rcases h with ⟨before, hwalk⟩ | hwalk
    · have hfind : store.find? place = some (.file before) := stands_walk hstands hwalk
      exact ⟨_, hwalk, by simp [Store.Writable, hfind], if_pos rfl⟩
    · have hfind : store.find? place = none := stands_walk hstands hwalk
      exact ⟨_, hwalk, by simp [Store.Writable, hfind], if_pos rfl⟩
  have hput : path.pieces.foldlM (store.put place (.file bytes)).step (Spot.filled place bytes _) =
      .ok (next.filled place bytes) := walk_put hw hwalk
  rwa [hstart, hfilled] at hput

/-- **What was written is read.** -/
theorem read_of_write (h : store.write path text = .ok after) : after.read path = .ok text := by
  rcases htarget : store.target path with trouble | place
  · rw [Store.write, htarget] at h
    cases h
  · rw [Store.write, htarget] at h
    cases h
    obtain ⟨hrefusal, hslash, hwalk⟩ := target_eq_ok_iff.mp htarget
    have hne : path ≠ "" := by
      rintro rfl
      exact absurd hrefusal (by decide)
    rw [withoutSlashes_eq (getLast?_pieces_ne_nil hne hslash)] at hwalk
    have hdecode : String.fromUTF8? text.toUTF8 = some text := dif_pos text.isValidUTF8
    simp only [Store.read, hrefusal, walk_written hwalk, bind, Except.bind, hdecode]

end EnumTables.Files
