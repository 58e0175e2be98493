import EnumTables.Proofs.AllOrNothing
import EnumTables.Proofs.LowerCase
import EnumTables.Proofs.PathLaws

/-!
# Companions beside their sources

Without another wish, a companion goes to the directory of its source, under the name of the source in small
letters with a suffix.  That is never the name of the source, also if the source has the suffix itself.  So
whatever is written there, the source is read as before.

* `companionName`, `companionName_ne` — names of companions, and that no file has the name of its own.
* `Beside`, `beside_defaultOutput` — where the path of a companion leads, as against that of its source.
* `walk_of_write` — a source leads to the same after its companion was written.
* `Host.Apart` — surroundings in which two paths do not lead to one file; `exists_beside`, what a request
  does in them.
* `defaultOutput_beside` — so it is for whole requests, also in trees of files with whatever formatter works
  in place.
-/

namespace EnumTables.Files

open EnumTables.Text

variable {store after : Store} {dir place : Place} {bytes : ByteArray} {spot next : Spot} {entry : Entry}
  {path base front : FilePath} {idle : List (List Char)} {piece name other stem extension : List Char}
  {source text : String} {c : Char}

/-! ## Names of companions -/

/-- **The name of the companion** of a file whose name begins with a stem. -/
def companionName (stem : List Char) : List Char :=
  (lowercase (String.ofList stem)).toList ++ companionSuffix

lemma companionName_eq (stem : List Char) :
    companionName stem = (lowercaseFrom [] stem ++ "_enum".toList) ++ '.' :: "rs".toList := by
  have hsuffix : companionSuffix = "_enum".toList ++ '.' :: "rs".toList := by decide
  rw [companionName, toList_lowercase, hsuffix, List.append_assoc]

lemma companionName_nil : companionName [] = companionSuffix := by
  decide +kernel

lemma ordinary_companionName (stem : List Char) : Ordinary (companionName stem) := by
  have hlength : 2 < (companionName stem).length := by
    have hsuffix : companionSuffix.length = 8 := by decide
    rw [companionName, List.length_append, hsuffix]
    omega
  refine ⟨Bool.eq_false_iff.mpr fun hidle => ?_, fun hup => ?_⟩
  · have hpiece : companionName stem = [] ∨ companionName stem = ['.'] := by simpa [isIdle] using hidle
    rcases hpiece with hpiece | hpiece <;> simp [hpiece] at hlength
  · simp [hup] at hlength

lemma slash_not_mem_companionName (h : '/' ∉ stem) : '/' ∉ companionName stem := by
  have hsuffix : '/' ∉ companionSuffix := by decide
  rw [companionName, toList_lowercase, List.mem_append, not_or]
  exact ⟨slash_not_mem_lowercaseFrom h, hsuffix⟩

lemma stemOf_append (hstem : stem ≠ []) (hdot : '.' ∉ extension) :
    FilePath.stemOf (stem ++ '.' :: extension) = stem := by
  have hreverse : (stem ++ '.' :: extension).reverse = extension.reverse ++ '.' :: stem.reverse := by
    rw [List.reverse_append, List.reverse_cons, List.append_assoc, List.singleton_append]
  have hextension : ∀ c ∈ extension.reverse, (c != '.') = true := by
    intro c hc
    rw [bne_iff_ne]
    rintro rfl
    exact hdot (List.mem_reverse.mp hc)
  have htake : (stem ++ '.' :: extension).reverse.takeWhile (· != '.') = extension.reverse := by
    rw [hreverse, List.takeWhile_append_of_pos hextension, List.takeWhile_cons_of_neg (by decide),
      List.append_nil]
  have hdrop : (stem ++ '.' :: extension).reverse.drop (extension.reverse.length + 1) = stem.reverse := by
    rw [hreverse, ← List.drop_drop, List.drop_left, List.drop_one, List.tail_cons]
  simp only [FilePath.stemOf, htake, hdrop, List.reverse_reverse, List.isEmpty_iff, hstem, if_false]

lemma mem_of_mem_stemOf (h : c ∈ FilePath.stemOf name) : c ∈ name := by
  unfold FilePath.stemOf at h
  dsimp only at h
  split_ifs at h
  · exact h
  · exact List.mem_reverse.mp (List.mem_of_mem_drop (List.mem_reverse.mp h))

/-- **No file has the name of its companion.**  The stem of that name is longer than the one which it was made
of, for small letters are not fewer. -/
theorem companionName_ne (name : List Char) : companionName (FilePath.stemOf name) ≠ name := by
  intro hsame
  have hstem : FilePath.stemOf name = lowercaseFrom [] (FilePath.stemOf name) ++ "_enum".toList := by
    conv_lhs => rw [← hsame, companionName_eq]
    exact stemOf_append (by simp) (by decide)
  have hlonger := length_le_lowercaseFrom [] (FilePath.stemOf name)
  have hlength := congrArg List.length hstem
  rw [List.length_append] at hlength
  have hsuffix : "_enum".toList.length = 5 := rfl
  omega

/-! ## Paths of companions -/

lemma slash_not_mem_stem (h : path.Plain) : '/' ∉ path.stem := by
  rcases hname : path.fileName? with _ | name
  · simp [FilePath.stem, hname]
  · obtain ⟨dir, hends⟩ := FilePath.exists_endsIn hname
    rw [FilePath.stem, hname, Option.map_some, Option.getD_some]
    exact fun hslash => hends.slash_not_mem h (mem_of_mem_stemOf hslash)

/-- The path of a companion is read from its text. -/
lemma ofText_defaultOutput (source : String) :
    FilePath.ofText (defaultOutput source) =
      (FilePath.ofText source).withFileName (companionName (FilePath.ofText source).stem) := by
  have hplain := FilePath.plain_ofText source
  have hslash := slash_not_mem_companionName (slash_not_mem_stem hplain)
  obtain ⟨base, front, -, -, hname, -⟩ :=
    FilePath.exists_base (.ofText source) (companionName (FilePath.ofText source).stem)
  have hne : (FilePath.withFileName (.ofText source) (companionName (FilePath.ofText source).stem)).pieces ≠
      [] := by
    rw [hname]
    exact List.concat_ne_nil _ _
  exact FilePath.ofText_text (hplain.withFileName hslash) hne

/-- **Beside a source, and never the source itself.** -/
structure Beside (source output : FilePath) : Prop where
  rooted : output.rooted = source.rooted
  /-- The companion of a file is in the same directory, under another name. -/
  named : ∀ name, source.fileName? = some name → ∃ parents,
    source.components = parents ++ [.name name] ∧
    output.components = parents ++ [.name (companionName (FilePath.stemOf name))] ∧
    companionName (FilePath.stemOf name) ≠ name
  /-- Behind a path without the name of a file, there is nothing in front of the suffix. -/
  unnamed : source.fileName? = none → output.components = source.components ++ [.name companionSuffix]

lemma beside_defaultOutput (source : String) :
    Beside (FilePath.ofText source) (FilePath.ofText (defaultOutput source)) := by
  rw [ofText_defaultOutput]
  generalize FilePath.ofText source = path
  obtain ⟨base, front, hrooted, htrims, hpath, hbase⟩ := FilePath.exists_base path (companionName path.stem)
  have hcomponents : (path.withFileName (companionName path.stem)).components =
      base.components ++ [.name (companionName path.stem)] := by
    rw [hpath, FilePath.components_name (ordinary_companionName _), ← htrims.components]
  refine ⟨?_, fun name hname => ?_, fun hnone => ?_⟩
  · rw [hpath, ← hrooted]
    exact htrims.rooted
  · obtain ⟨name', hends⟩ := hbase.resolve_left fun h => by simp [hname] at h
    obtain rfl : name' = name := Option.some.inj (hends.fileName?.symm.trans hname)
    have hstem : path.stem = FilePath.stemOf name' := by rw [FilePath.stem, hname]; rfl
    rw [hstem] at hcomponents ⊢
    exact ⟨base.components, hends.components, hcomponents, companionName_ne name'⟩
  · obtain ⟨-, rfl⟩ := hbase.resolve_right fun ⟨name, hends⟩ => by simp [hends.fileName?] at hnone
    have hstem : base.stem = [] := by rw [FilePath.stem, hnone]; rfl
    rwa [hstem, companionName_nil] at hcomponents ⊢

/-! ## Ways beside a written file -/

lemma step_ordinary (hname : Ordinary name) (h : store.step spot name = .ok next) :
    ∃ dir, spot = .directory dir ∧ next = store.spotAt (dir ++ [name]) := by
  cases spot with
  | outside => simp [Store.step, hname.1, hname.2] at h
  | directory dir =>
      simp only [Store.step, hname.1, Bool.false_eq_true, if_false, hname.2] at h
      split_ifs at h
      exact ⟨dir, rfl, (Except.ok.inj h).symm⟩
  | file | vacant => cases h

/-- An idle piece is the same to all trees. -/
lemma step_idle (store after : Store) (h : isIdle piece = true) :
    store.step spot piece = after.step spot piece := by
  cases spot <;> simp [Store.step, h]

lemma foldlM_idle (h : ∀ piece ∈ idle, isIdle piece = true) :
    idle.foldlM store.step spot = idle.foldlM after.step spot := by
  induction idle generalizing spot with
  | nil => rfl
  | cons piece rest ih =>
      rw [List.forall_mem_cons] at h
      rw [List.foldlM_cons, List.foldlM_cons, step_idle store after h.1]
      rcases after.step spot piece with trouble | next
      · rfl
      · exact ih h.2

/-- In a directory, idle pieces lead nowhere else. -/
lemma foldlM_idle_directory (h : ∀ piece ∈ idle, isIdle piece = true) :
    idle.foldlM store.step (.directory dir) = .ok (.directory dir) := by
  induction idle with
  | nil => rfl
  | cons piece rest ih =>
      rw [List.forall_mem_cons] at h
      rw [List.foldlM_cons, Store.step, h.1, if_pos rfl]
      exact ih h.2

lemma walk_append (store : Store) (path : FilePath) (behind : List (List Char)) :
    store.walk ⟨path.rooted, path.pieces ++ behind⟩ =
      (store.walk path >>= fun spot => behind.foldlM store.step spot) :=
  List.foldlM_append

lemma walk_trims (h : FilePath.Trims front base) (hwalk : store.walk front = .ok (.directory dir)) :
    store.walk base = .ok (.directory dir) := by
  obtain ⟨idle, hpieces, hidle⟩ := h.pieces
  have hbase : base = ⟨front.rooted, front.pieces ++ idle⟩ := by rw [h.rooted, ← hpieces]
  rw [hbase, walk_append, hwalk]
  exact foldlM_idle_directory hidle

lemma step_put_of_ne (h : name ≠ other) :
    (store.put (dir ++ [other]) entry).step (.directory dir) name = store.step (.directory dir) name := by
  have hplace : dir ++ [name] ≠ dir ++ [other] := by simpa using h
  simp only [Store.step, Store.spotAt, Store.find?_put store (List.concat_ne_nil _ _), if_neg hplace]

lemma exists_directory_of_walk (hname : Ordinary name)
    (h : store.walk ⟨front.rooted, front.pieces ++ [name]⟩ = .ok next) :
    ∃ dir, store.walk front = .ok (.directory dir) ∧ store.spotAt (dir ++ [name]) = next := by
  rw [walk_append] at h
  rcases hfront : store.walk front with trouble | between
  · rw [hfront] at h
    cases h
  · rw [hfront] at h
    rcases hstep : store.step between name with trouble | last
    · simp only [List.foldlM_cons, bind, Except.bind, hstep, reduceCtorEq] at h
    · obtain ⟨dir, rfl, rfl⟩ := step_ordinary hname hstep
      simp only [List.foldlM_cons, List.foldlM_nil, bind, Except.bind, hstep] at h
      exact ⟨dir, rfl, Except.ok.inj h⟩

/-- A file is found, or can be made, where it was looked for. -/
lemma eq_of_spotAt {asked : Place}
    (h : (∃ before, store.spotAt asked = .file place before) ∨ store.spotAt asked = .vacant place) :
    place = asked ∧ store.Writable asked := by
  unfold Store.spotAt at h
  rcases hfind : store.find? asked with _ | _ | bytes
  · simp only [hfind, reduceCtorEq, exists_false, false_or, Spot.vacant.injEq] at h
    exact ⟨h.symm, by simp [Store.Writable, hfind]⟩
  · simp [hfind] at h
  · simp only [hfind, reduceCtorEq, or_false, Spot.file.injEq, exists_and_left] at h
    exact ⟨h.1.symm, by simp [Store.Writable, hfind]⟩

lemma walk_put_directory (hw : store.Writable place) (h : store.walk path = .ok (.directory dir)) :
    (store.put place (.file bytes)).walk path = .ok (.directory dir) := by
  obtain ⟨_ | _, pieces⟩ := path
  · exact walk_put hw h
  · exact walk_put hw h

/-- A file is written to a directory which is there before and after. -/
lemma exists_directory {output : String} (hname : Ordinary name)
    (hpath : FilePath.ofText output = ⟨front.rooted, front.pieces ++ [name]⟩)
    (h : store.write output text = .ok after) :
    ∃ dir, after = store.put (dir ++ [name]) (.file text.toUTF8) ∧
      store.walk front = .ok (.directory dir) ∧ after.walk front = .ok (.directory dir) := by
  rcases htarget : store.target output with trouble | place
  · rw [Store.write, htarget] at h
    cases h
  · rw [Store.write, htarget] at h
    obtain rfl : store.put place (.file text.toUTF8) = after := Except.ok.inj h
    obtain ⟨-, -, hwalk⟩ := target_eq_ok_iff.mp htarget
    have hlast : (FilePath.ofText output).pieces.getLast? ≠ some [] := by
      rw [hpath, List.getLast?_concat, ne_eq, Option.some.injEq]
      exact hname.ne_nil
    rw [withoutSlashes_eq hlast, hpath] at hwalk
    obtain ⟨next, hnext, hplace⟩ : ∃ next,
        store.walk ⟨front.rooted, front.pieces ++ [name]⟩ = .ok next ∧
          ((∃ before, next = .file place before) ∨ next = .vacant place) := by
      rcases hwalk with ⟨before, hwalk⟩ | hwalk
      · exact ⟨_, hwalk, .inl ⟨before, rfl⟩⟩
      · exact ⟨_, hwalk, .inr rfl⟩
    obtain ⟨dir, hfront, rfl⟩ := exists_directory_of_walk hname hnext
    obtain ⟨rfl, hwritable⟩ := eq_of_spotAt hplace
    exact ⟨dir, rfl, hfront, walk_put_directory hwritable hfront⟩

/-- **What a source leads to is the same after its companion was written.** -/
lemma walk_of_write (h : store.write (defaultOutput source) text = .ok after) :
    after.walk (.ofText source) = store.walk (.ofText source) := by
  obtain ⟨base, front, hrooted, htrims, hpath, hbase⟩ :=
    FilePath.exists_base (.ofText source) (companionName (FilePath.ofText source).stem)
  rw [← ofText_defaultOutput] at hpath
  obtain ⟨dir, hafter, hbefore, hwalk⟩ := exists_directory (ordinary_companionName _) hpath h
  have hbaseBefore := walk_trims htrims hbefore
  have hbaseAfter := walk_trims htrims hwalk
  rcases hbase with ⟨-, rfl⟩ | ⟨name, hends⟩
  · rw [hbaseBefore, hbaseAfter]
  · have hne : name ≠ companionName (FilePath.ofText source).stem := by
      rw [FilePath.stem, hends.fileName?]
      exact (companionName_ne name).symm
    have hstep : after.step (.directory dir) name = store.step (.directory dir) name := by
      rw [hafter, step_put_of_ne hne]
    obtain ⟨idle, hpieces, hidle⟩ := hends.pieces
    have hsource : FilePath.ofText source = ⟨base.rooted, base.pieces ++ name :: idle⟩ := by
      rw [hrooted, ← hpieces]
    rw [hsource, walk_append, walk_append, hbaseBefore, hbaseAfter]
    simp only [bind, Except.bind, List.foldlM_cons, hstep]
    rcases store.step (.directory dir) name with trouble | next
    · rfl
    · exact foldlM_idle hidle

/-- **Writing a companion leaves its source alone.** -/
lemma read_of_write_companion (h : store.write (defaultOutput source) text = .ok after) :
    after.read source = store.read source := by
  rw [Store.read, Store.read, walk_of_write h]

end EnumTables.Files

namespace EnumTables.Generation

open EnumTables.Files

variable {formatter : Formatter} {store left : Store} {source path text : String} {trouble : Trouble}

/-! ## Requests without an output -/

/-- **A formatter which works in place**: told of a file, it leaves all files alone, or has another text for
that one. -/
def Formatter.InPlace (formatter : Formatter) : Prop :=
  ∀ path store, (formatter (formatArguments path) store).2 = store ∨
    ∃ text, store.write path text = .ok (formatter (formatArguments path) store).2

lemma run_write_host_of_error
    (h : ((Store.host formatter).write path text).run store = (.error trouble, left)) : left = store := by
  change Store.writing path text store = ((.error trouble, left) : Except Trouble Unit × Store) at h
  unfold Store.writing at h
  rcases hwrite : store.write path text with trouble' | written
  · rw [hwrite] at h
    exact (congrArg Prod.snd h).symm
  · rw [hwrite] at h
    cases h

/-- **Two paths which do not lead to one file**: what is read from the first one is the same after the other
one was written, or given to the formatter. -/
structure Host.Apart {σ : Type} (host : Host (StateM σ)) (path other : String) : Prop where
  written : ∀ text world,
    ((host.read path).run ((host.write other text).run world).2).1 = ((host.read path).run world).1
  formatted : ∀ world,
    ((host.read path).run ((host.format (formatArguments other)).run world).2).1 =
      ((host.read path).run world).1

/-- **A request without an output** writes and formats nothing but the companion beside its source.  So it
leaves the source alone, wherever the two paths do not lead to one file. -/
lemma exists_beside {σ : Type} {host : Host (StateM σ)} (hl : host.Lawful) (world : σ)
    (source type time : String) {settings : Settings} (hnone : settings.output = none) :
    ∃ report after log,
      Does (generateToFile host time source type settings)
        (generateToFile host.recorded time source type settings) world report after log ∧
      (∀ path text, .write path text ∈ log → path = defaultOutput source) ∧
      (∀ arguments, .format arguments ∈ log → arguments = formatArguments (defaultOutput source)) ∧
      (∀ path, report.outcome = .ok path → path = defaultOutput source) ∧
      (host.Apart source (defaultOutput source) →
        ((host.read source).run after).1 = ((host.read source).run world).1) := by
  obtain ⟨report, after, log, hdoes, hall⟩ := exists_allOrNothing hl world source type time settings
  refine ⟨report, after, log, hdoes, ?_⟩
  rcases hgenerated : generatedIn host world source type settings time with fault | ⟨path, type', code⟩
  · obtain ⟨hresult, rfl, rfl⟩ := hall.refused _ _ hgenerated
    exact ⟨by simp, by simp, fun path hpath => by simp [hresult] at hpath, fun _ => rfl⟩
  · have hpath : path = settings.output.getD (defaultOutput source) := (hall.timeless _ hgenerated).1
    rw [hnone, Option.getD_none] at hpath
    subst hpath
    rcases hwrite : (host.write (defaultOutput source) code).run world with ⟨trouble | ⟨⟩, left⟩
    · obtain ⟨hresult, rfl, rfl⟩ := hall.unwritten _ _ _ hgenerated hwrite
      refine ⟨by simp, by simp, fun path hpath => by simp [hresult] at hpath, fun hapart => ?_⟩
      have hsame := hapart.written code world
      rwa [hwrite] at hsame
    · obtain ⟨hresult, hafter⟩ := hall.written _ _ hgenerated hwrite
      have hok : ∀ path, report.outcome = .ok path → path = defaultOutput source := fun path hpath => by
        rw [hresult] at hpath
        exact (Except.ok.inj hpath).symm
      have hleft : host.Apart source (defaultOutput source) →
          ((host.read source).run left).1 = ((host.read source).run world).1 := fun hapart => by
        have hsame := hapart.written code world
        rwa [hwrite] at hsame
      rcases hafter with ⟨rfl, rfl⟩ | ⟨-, rfl, rfl⟩
      · exact ⟨by simp, by simp, hok, hleft⟩
      · exact ⟨by simp, by simp, hok, fun hapart => (hapart.formatted left).trans (hleft hapart)⟩

/-- In a tree of files, source and companion are not one file. -/
lemma apart_host (hformatter : formatter.InPlace) (source : String) :
    (Store.host formatter).Apart source (defaultOutput source) where
  written text store := by
    rcases hwrite : ((Store.host formatter).write (defaultOutput source) text).run store with
      ⟨trouble | ⟨⟩, left⟩
    · rw [run_write_host_of_error hwrite]
    · exact read_of_write_companion (run_write_host.mp hwrite)
  formatted store := by
    rcases hformatter (defaultOutput source) store with hsame | ⟨text, hwrite⟩
    · exact congrArg (Store.read · source) hsame
    · exact read_of_write_companion hwrite

/-- **A companion goes beside its source**, under another name, in however roundabout a way the source is
written.  So a request without an output writes nothing else, and leaves the source alone: in any
surroundings in which the two paths do not lead to one file, and in every tree of files. -/
theorem defaultOutput_beside (source : String) :
    Beside (FilePath.ofText source) (FilePath.ofText (defaultOutput source)) ∧
      (∀ (σ : Type) (host : Host (StateM σ)), host.Lawful → ∀ (time type : String) (settings : Settings),
        settings.output = none → ∀ world, ∃ report after log,
          Does (generateToFile host time source type settings)
            (generateToFile host.recorded time source type settings) world report after log ∧
          (∀ path text, .write path text ∈ log → path = defaultOutput source) ∧
          (∀ arguments, .format arguments ∈ log → arguments = formatArguments (defaultOutput source)) ∧
          (∀ path, report.outcome = .ok path → path = defaultOutput source) ∧
          (host.Apart source (defaultOutput source) →
            ((host.read source).run after).1 = ((host.read source).run world).1)) ∧
      ∀ formatter : Formatter, formatter.InPlace → ∀ (time type : String) (settings : Settings),
        settings.output = none → ∀ store : Store, ∃ report after,
          (generateToFile (Store.host formatter) time source type settings).run store = (report, after) ∧
            (∀ path, report.outcome = .ok path → path = defaultOutput source) ∧
            after.read source = store.read source := by
  refine ⟨beside_defaultOutput source, fun σ host hl time type settings hnone world =>
    exists_beside hl world source type time hnone, ?_⟩
  intro formatter hformatter time type settings hnone store
  obtain ⟨report, after, log, hdoes, -, -, hpath, hread⟩ :=
    exists_beside (lawful_host formatter) store source type time hnone
  exact ⟨report, after, hdoes.run, hpath, hread (apart_host hformatter source)⟩

/-- A tree with a source in capital letters, which is named like a companion. -/
def capitalSource : Store :=
  Store.empty.withFile "sub/\u0130X_enum.rs" "struct A(i8); const B: A = A(-1);".toUTF8

theorem defaultOutput_beside_capitalSource :
    (FilePath.ofText (defaultOutput "./sub//\u0130X_enum.rs")).components =
        [.here, .name "sub".toList, .name "i\u0307x_enum_enum.rs".toList] ∧
      ∃ report after,
        (generateToFile (Store.host Formatter.absent) "" "./sub//\u0130X_enum.rs" "A" {}).run capitalSource =
          (report, after) ∧
        report.outcome.isOk = true ∧
        after.read "./sub//\u0130X_enum.rs" = .ok "struct A(i8); const B: A = A(-1);" := by
  obtain ⟨hbeside, -, hrequest⟩ := defaultOutput_beside "./sub//\u0130X_enum.rs"
  have hname : (FilePath.ofText "./sub//\u0130X_enum.rs").fileName? = some "\u0130X_enum.rs".toList := by
    decide +kernel
  have hsource : (FilePath.ofText "./sub//\u0130X_enum.rs").components =
      [.here, .name "sub".toList] ++ [.name "\u0130X_enum.rs".toList] := by decide +kernel
  have hcompanion : companionName (FilePath.stemOf "\u0130X_enum.rs".toList) =
      "i\u0307x_enum_enum.rs".toList := by decide +kernel
  have hread : capitalSource.read "./sub//\u0130X_enum.rs" = .ok "struct A(i8); const B: A = A(-1);" := by
    decide +kernel
  have hok : ((generateToFile (Store.host Formatter.absent) "" "./sub//\u0130X_enum.rs" "A" {}).run
      capitalSource).1.outcome.isOk = true := by decide +kernel
  obtain ⟨parents, hparents, houtput, -⟩ := hbeside.named _ hname
  obtain ⟨rfl, -⟩ := List.append_inj' (hsource.symm.trans hparents) rfl
  obtain ⟨report, after, hrun, -, hkept⟩ :=
    hrequest Formatter.absent (fun _ _ => .inl rfl) "" "A" {} rfl capitalSource
  refine ⟨by rw [houtput, hcompanion]; rfl, report, after, hrun, ?_, hkept.trans hread⟩
  rwa [hrun] at hok

end EnumTables.Generation
