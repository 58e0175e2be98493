import EnumTables.Files.FilePath
import Mathlib.Data.List.DropRight
import Mathlib.Tactic.Common

/-!
# Paths and what they say

Idle pieces at the end of a path can be left out, and a name which is put behind a path is one more component
of it.  So another name in the place of a file's leaves the components in front of it as they are, in however
roundabout a way they are written.

* `Ordinary` — pieces which are names.
* `FilePath.Trims` — a path without some of its idle pieces.
* `FilePath.EndsIn` — a path which ends in a name; `exists_endsIn` finds it for every name of a file.
* `exists_base` — what the path under another name shares with the path itself.
* `FilePath.Plain` — paths which can be read from their texts again; `ofText_text` is how.
-/

namespace EnumTables.Files

variable {path front shorter dir : FilePath} {rooted first : Bool} {pieces behind idle : List (List Char)}
  {piece name : List Char}

/-! ## Pieces -/

/-- **A piece which is a name**: it says something, and does not lead up. -/
def Ordinary (piece : List Char) : Prop := isIdle piece = false ∧ piece ≠ ['.', '.']

lemma Ordinary.ne_nil (h : Ordinary piece) : piece ≠ [] := by
  rintro rfl
  exact absurd h.1 (by decide)

lemma componentOf?_of_ordinary (h : Ordinary piece) : componentOf? first piece = some (.name piece) := by
  have hdot : piece ≠ ['.'] := by
    rintro rfl
    exact absurd h.1 (by decide)
  simp [componentOf?, h.1, h.2, hdot]

/-- Only an idle piece may say something else at the beginning. -/
lemma componentOf?_of_not_isIdle (h : isIdle piece = false) :
    componentOf? first piece = componentOf? false piece := by
  have hdot : piece ≠ ['.'] := by
    rintro rfl
    exact absurd h (by decide)
  simp only [componentOf?, hdot, false_and, if_false]

lemma isIdle_of_componentOf?_eq_none (h : componentOf? first piece = none) : isIdle piece = true := by
  unfold componentOf? at h
  split_ifs at h with hhere hidle
  exact hidle

lemma componentOf?_of_isIdle (h : isIdle piece = true) : componentOf? false piece = none := by
  simp [componentOf?, h]

lemma filterMap_of_idle (h : ∀ piece ∈ idle, isIdle piece = true) :
    idle.filterMap (componentOf? false) = [] :=
  List.filterMap_eq_nil_iff.mpr fun piece hmem => componentOf?_of_isIdle (h piece hmem)

namespace FilePath

lemma components_append (h : pieces ≠ []) :
    components ⟨rooted, pieces ++ behind⟩ =
      components ⟨rooted, pieces⟩ ++ behind.filterMap (componentOf? false) := by
  obtain ⟨first, rest, rfl⟩ := List.exists_cons_of_ne_nil h
  simp only [components, List.cons_append, List.filterMap_append, List.append_assoc]

lemma components_append_idle (h : pieces ≠ []) (hidle : ∀ piece ∈ idle, isIdle piece = true) :
    components ⟨rooted, pieces ++ idle⟩ = components ⟨rooted, pieces⟩ := by
  rw [components_append h, filterMap_of_idle hidle, List.append_nil]

lemma components_concat (h : isIdle piece = false) :
    components ⟨rooted, pieces ++ [piece]⟩ =
      components ⟨rooted, pieces⟩ ++ (componentOf? false piece).toList := by
  rcases pieces with _ | ⟨first, rest⟩
  · simp only [components, List.nil_append, componentOf?_of_not_isIdle h, List.filterMap_nil,
      List.append_nil]
  · rw [components_append (List.cons_ne_nil _ _), List.filterMap_cons, List.filterMap_nil]
    cases componentOf? false piece <;> rfl

/-- A name behind a path is one more component of it. -/
lemma components_name (h : Ordinary name) :
    components ⟨rooted, pieces ++ [name]⟩ = components ⟨rooted, pieces⟩ ++ [.name name] := by
  rw [components_concat h.1, componentOf?_of_ordinary h, Option.toList_some]

/-! ## Idle pieces behind a path -/

/-- **A path without some of the idle pieces at its end**, which says the same. -/
structure Trims (shorter path : FilePath) : Prop where
  rooted : shorter.rooted = path.rooted
  pieces : ∃ idle, path.pieces = shorter.pieces ++ idle ∧ ∀ piece ∈ idle, isIdle piece = true
  components : shorter.components = path.components

lemma Trims.refl (path : FilePath) : Trims path path :=
  ⟨rfl, ⟨[], (List.append_nil _).symm, by simp⟩, rfl⟩

lemma Trims.trans (h : Trims front shorter) (hs : Trims shorter path) : Trims front path := by
  obtain ⟨near, hnear, hidleNear⟩ := h.pieces
  obtain ⟨far, hfar, hidleFar⟩ := hs.pieces
  refine ⟨h.rooted.trans hs.rooted, ⟨near ++ far, ?_, ?_⟩, h.components.trans hs.components⟩
  · rw [hfar, hnear, List.append_assoc]
  · exact List.forall_mem_append.mpr ⟨hidleNear, hidleFar⟩

/-- What is left out at the end of a path: idle pieces, and a beginning which says nothing. -/
lemma trimPieces_cons :
    trimPieces rooted (piece :: pieces) =
      if pieces.rdropWhile isIdle = [] ∧ componentOf? (!rooted) piece = none then []
      else piece :: pieces.rdropWhile isIdle := by
  have hsays : (piece == [] || (rooted && isIdle piece)) = true ↔ componentOf? (!rooted) piece = none := by
    by_cases hidle : isIdle piece = true
    · have hpiece : piece = [] ∨ piece = ['.'] := by simpa [isIdle] using hidle
      rcases hpiece with rfl | rfl <;> cases rooted <;> decide
    · have hempty : piece ≠ [] := by
        rintro rfl
        exact hidle rfl
      have hsome : componentOf? (!rooted) piece ≠ none := mt isIdle_of_componentOf?_eq_none hidle
      simp [hempty, hidle, hsome]
  change (if (pieces.rdropWhile isIdle).isEmpty && (piece == [] || (rooted && isIdle piece)) then []
    else piece :: pieces.rdropWhile isIdle) = _
  simp only [Bool.and_eq_true, List.isEmpty_iff, hsays]

lemma trims_trimmed (path : FilePath) : Trims path.trimmed path := by
  obtain ⟨rooted, pieces⟩ := path
  rcases pieces with _ | ⟨first, rest⟩
  · exact .refl _
  · have hrest : rest.rdropWhile isIdle ++ rest.rtakeWhile isIdle = rest := List.rdropWhile_append_rtakeWhile
    have hidle : ∀ piece ∈ rest.rtakeWhile isIdle, isIdle piece = true := fun _ => List.mem_rtakeWhile_imp
    rw [trimmed, trimPieces_cons]
    split_ifs with hnothing
    · obtain ⟨hkept, hsays⟩ := hnothing
      rw [hkept, List.nil_append] at hrest
      rw [hrest] at hidle
      have hfirst := isIdle_of_componentOf?_eq_none hsays
      refine ⟨rfl, ⟨first :: rest, rfl, List.forall_mem_cons.mpr ⟨hfirst, hidle⟩⟩, ?_⟩
      simp only [components, hsays, filterMap_of_idle hidle, Option.toList_none, List.append_nil]
    · refine ⟨rfl, ⟨rest.rtakeWhile isIdle, ?_, hidle⟩, ?_⟩
      · rw [List.cons_append, hrest]
      · rw [← components_append_idle (List.cons_ne_nil _ _) hidle, List.cons_append, hrest]

lemma rdropWhile_idle (h : isIdle name = false) (hidle : ∀ piece ∈ idle, isIdle piece = true) :
    (pieces ++ name :: idle).rdropWhile isIdle = pieces ++ [name] := by
  have hreverse : ∀ piece ∈ idle.reverse, isIdle piece = true := by simpa using hidle
  rw [List.rdropWhile, List.reverse_append, List.reverse_cons, List.append_assoc,
    List.dropWhile_append_of_pos hreverse, List.singleton_append, List.dropWhile_cons_of_neg (by simp [h]),
    List.reverse_cons, List.reverse_reverse]

/-- Nothing in front of a name is left out, nor the name. -/
lemma trimPieces_name (h : isIdle name = false) (hidle : ∀ piece ∈ idle, isIdle piece = true) :
    trimPieces rooted (pieces ++ name :: idle) = pieces ++ [name] := by
  rcases pieces with _ | ⟨first, rest⟩
  · have hsays : componentOf? (!rooted) name ≠ none := fun hnone => by
      rw [isIdle_of_componentOf?_eq_none hnone] at h
      cases h
    rw [List.nil_append, trimPieces_cons, if_neg fun hnothing => hsays hnothing.2,
      List.rdropWhile_eq_nil_iff.mpr hidle, List.nil_append]
  · rw [List.cons_append, trimPieces_cons, rdropWhile_idle h hidle, if_neg (by simp), List.cons_append]

/-! ## Names at the end of a path -/

/-- **A path which ends in a name**, but for idle pieces behind it. -/
structure EndsIn (path dir : FilePath) (name : List Char) : Prop where
  ordinary : Ordinary name
  rooted : dir.rooted = path.rooted
  pieces : ∃ idle, path.pieces = dir.pieces ++ name :: idle ∧ ∀ piece ∈ idle, isIdle piece = true

/-- **The name of a file is at the end of its path.** -/
lemma exists_endsIn (h : path.fileName? = some name) : ∃ dir, path.EndsIn dir name := by
  obtain ⟨rooted, pieces⟩ := path
  induction pieces using List.reverseRecOn with
  | nil => cases h
  | append_singleton front last ih =>
      by_cases hidle : isIdle last = true
      · rcases front with _ | ⟨first, rest⟩
        · simp only [fileName?, components, componentOf?, List.nil_append, hidle] at h
          split_ifs at h <;> cases h
        · have hlast : ∀ piece ∈ [last], isIdle piece = true := by simpa using hidle
          rw [fileName?, components_append_idle (List.cons_ne_nil _ _) hlast] at h
          obtain ⟨dir, hordinary, hrooted, idle, hpieces, hbehind⟩ := ih h
          refine ⟨dir, hordinary, hrooted, idle ++ [last], ?_, ?_⟩
          · change first :: rest ++ [last] = _
            rw [show first :: rest = _ from hpieces, List.append_assoc, List.cons_append]
          · exact List.forall_mem_append.mpr ⟨hbehind, hlast⟩
      · have hidle : isIdle last = false := Bool.eq_false_iff.mpr hidle
        by_cases hup : last = ['.', '.']
        · subst hup
          have hsays : componentOf? false ['.', '.'] = some .up := by decide
          rw [fileName?, components_concat hidle, hsays, Option.toList_some, List.getLast?_concat] at h
          cases h
        · have hordinary : Ordinary last := ⟨hidle, hup⟩
          rw [fileName?, components_name hordinary, List.getLast?_concat] at h
          obtain rfl : last = name := Option.some.inj h
          exact ⟨⟨rooted, front⟩, hordinary, rfl, [], rfl, by simp⟩

namespace EndsIn

lemma components (h : path.EndsIn dir name) : path.components = dir.components ++ [.name name] := by
  obtain ⟨hordinary, hrooted, idle, hpieces, hidle⟩ := h
  calc path.components = FilePath.components ⟨path.rooted, (dir.pieces ++ [name]) ++ idle⟩ := by
        rw [List.append_assoc, List.singleton_append, ← hpieces]
    _ = FilePath.components ⟨path.rooted, dir.pieces ++ [name]⟩ :=
        components_append_idle (List.concat_ne_nil _ _) hidle
    _ = dir.components ++ [.name name] := by rw [components_name hordinary, ← hrooted]

lemma fileName? (h : path.EndsIn dir name) : path.fileName? = some name := by
  rw [FilePath.fileName?, h.components, List.getLast?_concat]

/-- The parent of a path is what is in front of its name. -/
lemma parent (h : path.EndsIn dir name) : path.parent = dir.trimmed := by
  obtain ⟨hordinary, hrooted, idle, hpieces, hidle⟩ := h
  have htrimmed : path.trimmed = ⟨dir.rooted, dir.pieces ++ [name]⟩ := by
    rw [trimmed, hpieces, trimPieces_name hordinary.1 hidle, hrooted]
  rw [FilePath.parent, htrimmed, List.dropLast_concat]

end EndsIn

/-! ## Another name -/

/-- A piece which is put behind a path stands there, and no slash more than there must be in front of it. -/
lemma exists_push (path : FilePath) (piece : List Char) :
    ∃ front, Trims front path ∧ path.push piece = ⟨front.rooted, front.pieces ++ [piece]⟩ := by
  obtain ⟨rooted, pieces⟩ := path
  unfold push
  split
  · rename_i hlast
    obtain ⟨front, hpieces⟩ := List.getLast?_eq_some_iff.mp hlast
    obtain rfl : pieces = front ++ [[]] := hpieces
    refine ⟨⟨rooted, front⟩, ⟨rfl, ⟨[[]], rfl, by decide⟩, ?_⟩, by rw [List.dropLast_concat]⟩
    rcases front with _ | ⟨first, rest⟩
    · simp [components, componentOf?, isIdle]
    · rw [components_append_idle (List.cons_ne_nil _ _) (by decide)]
  · exact ⟨_, .refl _, rfl⟩

/-- **What the path under another name shares with the path itself**: it is the directory of the file, or the
path as a whole if that has no name. -/
lemma exists_base (path : FilePath) (piece : List Char) :
    ∃ base front, base.rooted = path.rooted ∧ Trims front base ∧
      path.withFileName piece = ⟨front.rooted, front.pieces ++ [piece]⟩ ∧
      (path.fileName? = none ∧ base = path ∨ ∃ name, path.EndsIn base name) := by
  rcases hname : path.fileName? with _ | name
  · obtain ⟨front, htrims, hpush⟩ := exists_push path piece
    refine ⟨path, front, rfl, htrims, ?_, .inl ⟨rfl, rfl⟩⟩
    rw [withFileName, hname]
    exact hpush
  · obtain ⟨dir, hends⟩ := exists_endsIn hname
    obtain ⟨front, htrims, hpush⟩ := exists_push dir.trimmed piece
    refine ⟨dir, front, hends.rooted, htrims.trans (trims_trimmed dir), ?_, .inr ⟨name, hends⟩⟩
    rw [withFileName, hname, Option.isSome_some, if_pos rfl, hends.parent]
    exact hpush

/-! ## Paths and their texts -/

/-- **A path which can be read from its text**: no piece has a slash in it, and none which stands for a slash
is at the beginning of a path which does not begin at the root. -/
structure Plain (path : FilePath) : Prop where
  noSlash : ∀ piece ∈ path.pieces, '/' ∉ piece
  begins : path.rooted = false → ∀ second rest, path.pieces ≠ [] :: second :: rest

lemma slash_not_mem_of_mem_splitOn {cs : List Char} (h : piece ∈ cs.splitOn '/') : '/' ∉ piece := by
  induction cs generalizing piece with
  | nil =>
      rw [List.splitOn_nil, List.mem_singleton] at h
      subst h
      exact List.not_mem_nil
  | cons c rest ih =>
      rw [List.splitOn_cons_eq_if_modifyHead] at h
      split_ifs at h with hslash
      · rcases List.mem_cons.mp h with rfl | h
        · exact List.not_mem_nil
        · exact ih h
      · obtain ⟨first, others, hsplit⟩ := List.exists_cons_of_ne_nil (List.splitOn_ne_nil '/' rest)
        rw [hsplit, List.modifyHead_cons] at h
        rcases List.mem_cons.mp h with rfl | h
        · rw [List.mem_cons, not_or]
          exact ⟨fun heq => hslash (beq_iff_eq.mpr heq.symm), ih (hsplit ▸ List.mem_cons_self)⟩
        · exact ih (hsplit ▸ List.mem_cons_of_mem _ h)

lemma plain_ofText (text : String) : (ofText text).Plain := by
  unfold ofText
  split
  · exact ⟨fun _ => slash_not_mem_of_mem_splitOn, fun h => nomatch h⟩
  · rename_i hbegins
    refine ⟨fun _ => slash_not_mem_of_mem_splitOn, fun _ second rest hsplit => ?_⟩
    have hjoin : ['/'].intercalate (text.toList.splitOn '/') = text.toList := List.intercalate_splitOn '/'
    rw [show text.toList.splitOn '/' = _ from hsplit, List.intercalate_cons_cons] at hjoin
    exact hbegins _ hjoin.symm

lemma Plain.of_prefix (h : path.Plain) (hrooted : shorter.rooted = path.rooted)
    (hshorter : shorter.pieces <+: path.pieces) : shorter.Plain := by
  obtain ⟨behind, hbehind⟩ := hshorter
  refine ⟨fun piece hmem => h.noSlash piece (hbehind ▸ List.mem_append_left _ hmem), ?_⟩
  intro hfalse second rest hpieces
  rw [hpieces] at hbehind
  exact h.begins (hrooted ▸ hfalse) second (rest ++ behind) hbehind.symm

lemma Plain.concat (h : Plain ⟨rooted, pieces⟩) (hbegins : rooted = false → pieces ≠ [[]])
    (hslash : '/' ∉ piece) : Plain ⟨rooted, pieces ++ [piece]⟩ := by
  refine ⟨List.forall_mem_append.mpr ⟨h.noSlash, List.forall_mem_singleton.mpr hslash⟩, ?_⟩
  intro hfalse second rest hpieces
  rcases pieces with _ | ⟨first, _ | ⟨next, others⟩⟩
  · cases hpieces
  · cases hpieces
    exact hbegins hfalse rfl
  · cases hpieces
    exact h.begins hfalse _ _ rfl

lemma Plain.push (h : path.Plain) (hslash : '/' ∉ piece) : (path.push piece).Plain := by
  obtain ⟨rooted, pieces⟩ := path
  unfold FilePath.push
  split
  · rename_i hlast
    obtain ⟨front, hpieces⟩ := List.getLast?_eq_some_iff.mp hlast
    obtain rfl : pieces = front ++ [[]] := hpieces
    have hfront : Plain ⟨rooted, front⟩ := h.of_prefix rfl (List.prefix_append _ _)
    rw [List.dropLast_concat]
    refine hfront.concat (fun hfalse hempty => ?_) hslash
    exact h.begins hfalse [] [] (by rw [hempty]; rfl)
  · rename_i hlast
    refine h.concat (fun _ hempty => hlast ?_) hslash
    rw [hempty, List.getLast?_singleton]

lemma EndsIn.slash_not_mem (hends : path.EndsIn dir name) (h : path.Plain) : '/' ∉ name := by
  obtain ⟨idle, hpieces, -⟩ := hends.pieces
  exact h.noSlash name (by simp [hpieces])

lemma Plain.withFileName (h : path.Plain) (hslash : '/' ∉ piece) : (path.withFileName piece).Plain := by
  rcases hname : path.fileName? with _ | name
  · rw [FilePath.withFileName, hname]
    exact h.push hslash
  · obtain ⟨dir, hends⟩ := exists_endsIn hname
    obtain ⟨idle, hpieces, -⟩ := hends.pieces
    have hdir : dir.Plain := h.of_prefix hends.rooted (hpieces ▸ List.prefix_append _ _)
    obtain ⟨behind, hbehind, -⟩ := (trims_trimmed dir).pieces
    have htrimmed : dir.trimmed.Plain := hdir.of_prefix rfl (hbehind ▸ List.prefix_append _ _)
    rw [FilePath.withFileName, hname, Option.isSome_some, if_pos rfl, hends.parent]
    exact htrimmed.push hslash

/-- **A path is read from its text**, if its pieces allow for it. -/
lemma ofText_text (h : path.Plain) (hne : path.pieces ≠ []) : ofText path.text = path := by
  obtain ⟨rooted, pieces⟩ := path
  have hsplit : (['/'].intercalate pieces).splitOn '/' = pieces :=
    List.splitOn_intercalate '/' h.noSlash hne
  cases rooted with
  | true =>
      simp only [ofText, text, if_true, String.toList_ofList, List.singleton_append, hsplit]
  | false =>
      have hbegins : ∀ rest, ['/'].intercalate pieces ≠ '/' :: rest := by
        intro rest htext
        rw [htext, List.splitOn_cons_eq_if_modifyHead, if_pos (beq_self_eq_true _)] at hsplit
        obtain ⟨second, others, hrest⟩ := List.exists_cons_of_ne_nil (List.splitOn_ne_nil '/' rest)
        exact h.begins rfl second others (by rw [← hrest]; exact hsplit.symm)
      have htext : (text ⟨false, pieces⟩).toList = ['/'].intercalate pieces := by
        simp only [text, Bool.false_eq_true, if_false, List.nil_append, String.toList_ofList]
      unfold ofText
      rw [htext]
      split
      · rename_i rest hrest
        exact absurd hrest (hbegins rest)
      · rw [hsplit]

end FilePath

end EnumTables.Files
