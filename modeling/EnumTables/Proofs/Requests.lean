import EnumTables.Proofs.CommandLines

/-!
# What command lines ask for

What is given on a command line, and the variable which names the source, make a request.  What is not given
has its default.

* `Chosen` — the settings which are chosen by what is given; `Chosen.unique` and `chosen_settingsOf`, there
  is one choice, and it is the one which is read.
* `Asks` — the request which is asked for.
* `requestOf_eq_ok_iff` — a request is read exactly if it is asked for.
-/

namespace EnumTables.Command

open EnumTables.Generation EnumTables.Text

/-! ## Choices -/

/-- **The settings which are chosen** by what is given.  What is not given has its default. -/
structure Chosen (given : List (Parameter × String)) (settings : Settings) : Prop where
  output : ∀ path, settings.output = some path ↔ (.output, path) ∈ given
  convention : (∃ name, (.convention, name) ∈ given ∧ (name, settings.convention) ∈ conventionNames) ∨
    .convention ∉ given.map Prod.fst ∧ settings.convention = .verbatim
  runtime : (.runtime, settings.runtime) ∈ given ∨
    .runtime ∉ given.map Prod.fst ∧ settings.runtime = "::enums"
  registry : settings.registry = true ↔ .registry ∈ given.map Prod.fst
  timestamp : settings.timestamp = true ↔ .noTimestamp ∉ given.map Prod.fst
  formatted : settings.formatted = true ↔ .noRustfmt ∉ given.map Prod.fst

/-- **The request which is asked for** by what is given, each parameter once and with a value which it can
have, and by the variable which names the source. -/
structure Asks (given : List (Parameter × String)) (fallback : Option String) (request : Request) : Prop where
  once : (given.map Prod.fst).Nodup
  allowed : ∀ entry ∈ given, Allowed entry.1 entry.2
  type : (.type, request.type) ∈ given
  /-- The variable counts if the source is not given. -/
  source : (.source, request.source) ∈ given ∨
    .source ∉ given.map Prod.fst ∧ fallback = some request.source ∧ request.source ≠ ""
  settings : Chosen given request.settings

/-! ## Looking up what is given -/

namespace Progress

variable {progress : Progress} {parameter : Parameter} {text : String}

lemma value?_eq_some_iff (hnodup : (progress.given.map Prod.fst).Nodup) :
    progress.value? parameter = some text ↔ (parameter, text) ∈ progress.given := by
  rw [value?, List.lookup_eq_some_iff]
  constructor
  · rintro ⟨before, behind, hgiven, -⟩
    rw [hgiven]
    exact List.mem_append_right _ List.mem_cons_self
  · intro hmem
    obtain ⟨before, behind, hgiven⟩ := List.append_of_mem hmem
    refine ⟨before, behind, hgiven, fun entry he => ?_⟩
    rw [hgiven, List.map_append, List.nodup_append'] at hnodup
    have hne : parameter ≠ entry.1 := fun heq =>
      hnodup.2.2 (List.mem_map_of_mem he) (heq ▸ List.mem_cons_self)
    simpa using hne

lemma value?_eq_none_iff :
    progress.value? parameter = none ↔ parameter ∉ progress.given.map Prod.fst := by
  rw [← has_eq_true_iff, has, Option.not_isSome_iff_eq_none]

end Progress

/-! ## Settings -/

section

variable {given given' : List (Parameter × String)} {settings settings' : Settings} {progress : Progress}

/-- The settings are chosen by all that is given but the source. -/
lemma Chosen.of_iff (h : Chosen given settings)
    (hsame : ∀ parameter text, parameter ≠ .source → ((parameter, text) ∈ given ↔ (parameter, text) ∈ given')) :
    Chosen given' settings := by
  have hkey : ∀ parameter, parameter ≠ .source →
      (parameter ∈ given.map Prod.fst ↔ parameter ∈ given'.map Prod.fst) := fun parameter hne => by
    simp only [List.mem_map, Prod.exists, exists_and_right, exists_eq_right]
    exact exists_congr fun text => hsame parameter text hne
  refine ⟨fun path => (h.output path).trans (hsame .output path nofun), ?_, ?_,
    h.registry.trans (hkey .registry nofun), h.timestamp.trans (not_congr (hkey .noTimestamp nofun)),
    h.formatted.trans (not_congr (hkey .noRustfmt nofun))⟩
  · simp only [← hsame .convention _ nofun, ← hkey .convention nofun]
    exact h.convention
  · simp only [← hsame .runtime _ nofun, ← hkey .runtime nofun]
    exact h.runtime

/-- At most one value is given for each parameter. -/
lemma eq_of_mem (hnodup : (given.map Prod.fst).Nodup) {parameter : Parameter} {text text' : String}
    (h : (parameter, text) ∈ given) (h' : (parameter, text') ∈ given) : text = text' := by
  have heq := List.inj_on_of_nodup_map hnodup h h' rfl
  exact congrArg Prod.snd heq

/-- What is given chooses its settings. -/
lemma Chosen.unique (hnodup : (given.map Prod.fst).Nodup) (h : Chosen given settings)
    (h' : Chosen given settings') : settings = settings' := by
  have houtput : settings.output = settings'.output :=
    Option.ext fun path => (h.output path).trans (h'.output path).symm
  have hconvention : settings.convention = settings'.convention := by
    rcases h.convention with ⟨name, hmem, hname⟩ | ⟨hnot, hdefault⟩
    · rcases h'.convention with ⟨name', hmem', hname'⟩ | ⟨hnot', -⟩
      · obtain rfl := eq_of_mem hnodup hmem hmem'
        exact Option.some.inj ((ofLabel?_eq_some_iff.mpr hname).symm.trans (ofLabel?_eq_some_iff.mpr hname'))
      · exact absurd (List.mem_map_of_mem hmem) hnot'
    · rcases h'.convention with ⟨name', hmem', -⟩ | ⟨-, hdefault'⟩
      · exact absurd (List.mem_map_of_mem hmem') hnot
      · rw [hdefault, hdefault']
  have hruntime : settings.runtime = settings'.runtime := by
    rcases h.runtime with hmem | ⟨hnot, hdefault⟩
    · rcases h'.runtime with hmem' | ⟨hnot', -⟩
      · exact eq_of_mem hnodup hmem hmem'
      · exact absurd (List.mem_map_of_mem hmem) hnot'
    · rcases h'.runtime with hmem' | ⟨-, hdefault'⟩
      · exact absurd (List.mem_map_of_mem hmem') hnot
      · rw [hdefault, hdefault']
  have hregistry := Bool.eq_iff_iff.mpr (h.registry.trans h'.registry.symm)
  have htimestamp := Bool.eq_iff_iff.mpr (h.timestamp.trans h'.timestamp.symm)
  have hformatted := Bool.eq_iff_iff.mpr (h.formatted.trans h'.formatted.symm)
  cases settings
  cases settings'
  simp_all

/-- The settings which are read are those which are chosen. -/
lemma chosen_settingsOf (hnodup : (progress.given.map Prod.fst).Nodup)
    (hallowed : ∀ entry ∈ progress.given, Allowed entry.1 entry.2) :
    Chosen progress.given (settingsOf progress) := by
  refine ⟨fun path => Progress.value?_eq_some_iff hnodup, ?_, ?_, ?_, ?_, ?_⟩
  · rcases hvalue : progress.value? .convention with _ | name
    · exact .inr ⟨Progress.value?_eq_none_iff.mp hvalue, by simp [settingsOf, hvalue]⟩
    · have hmem := (Progress.value?_eq_some_iff hnodup).mp hvalue
      obtain ⟨convention, hname⟩ := hallowed _ hmem
      refine .inl ⟨name, hmem, ?_⟩
      simpa [settingsOf, hvalue, ofLabel?_eq_some_iff.mpr hname] using hname
  · rcases hvalue : progress.value? .runtime with _ | path
    · exact .inr ⟨Progress.value?_eq_none_iff.mp hvalue, by simp [settingsOf, hvalue]⟩
    · exact .inl (by simpa [settingsOf, hvalue] using (Progress.value?_eq_some_iff hnodup).mp hvalue)
  · exact Progress.has_eq_true_iff
  · rw [← Progress.has_eq_true_iff]
    simp [settingsOf]
  · rw [← Progress.has_eq_true_iff]
    simp [settingsOf]

lemma eq_settingsOf_iff (hnodup : (progress.given.map Prod.fst).Nodup)
    (hallowed : ∀ entry ∈ progress.given, Allowed entry.1 entry.2) :
    settings = settingsOf progress ↔ Chosen progress.given settings := by
  constructor
  · rintro rfl
    exact chosen_settingsOf hnodup hallowed
  · exact fun h => h.unique hnodup (chosen_settingsOf hnodup hallowed)

end

/-! ## Requests -/

variable {arguments : List String} {fallback : Option String} {request : Request}
  {given : List (Parameter × String)} {progress sourced : Progress}

/-- The variable names the source if nothing else does. -/
lemma withVariable_eq_ok_iff : withVariable progress fallback = .ok sourced ↔
    (fallback = none ∨ .source ∈ progress.given.map Prod.fst) ∧ sourced = progress ∨
      ∃ path, fallback = some path ∧ path ≠ "" ∧ .source ∉ progress.given.map Prod.fst ∧
        sourced = { progress with given := (.source, path) :: progress.given } := by
  rcases fallback with _ | path
  · simp [withVariable, eq_comm]
  · simp only [withVariable, Progress.has_eq_true_iff]
    split_ifs with hgiven
    · simp [hgiven, eq_comm]
    · simp [mapError_eq_ok_iff, Progress.accept_eq_ok_iff, hgiven, Allowed]

/-- A request is read from what is given in the end. -/
lemma requestOf_eq_ok_iff_ends : requestOf arguments fallback = .ok request ↔
    ∃ settled sourced, (∃ read, arguments.foldlM Progress.take .start = .ok read ∧ read.settle = .ok settled) ∧
      withVariable settled fallback = .ok sourced ∧
      sourced.value? .type = some request.type ∧ sourced.value? .source = some request.source ∧
      request.settings = settingsOf sourced := by
  unfold requestOf
  rcases arguments.foldlM Progress.take .start with halt | read
  · simp [bind, Except.bind]
  · rcases hsettle : read.settle with halt | settled
    · simp [bind, Except.bind, hsettle]
    · rcases hvariable : withVariable settled fallback with halt | sourced
      · simp [bind, Except.bind, hsettle, hvariable]
      · obtain ⟨type, source, settings⟩ := request
        rcases htype : sourced.value? .type with _ | type'
        · simp [bind, Except.bind, hsettle, hvariable, htype, throw, throwThe, MonadExceptOf.throw]
        · rcases hsource : sourced.value? .source with _ | source'
          · simp [bind, Except.bind, hsettle, hvariable, htype, hsource, throw, throwThe, MonadExceptOf.throw]
          · simp [bind, Except.bind, hsettle, hvariable, htype, hsource, pure, Except.pure, eq_comm]

/-- What is given, and a source which is named by the variable. -/
lemma asks_iff_of_given (hgiven : progress.given = given.reverse) (hnodup : (given.map Prod.fst).Nodup)
    (hallowed : ∀ entry ∈ given, Allowed entry.1 entry.2) :
    (∃ sourced, withVariable progress fallback = .ok sourced ∧
      sourced.value? .type = some request.type ∧ sourced.value? .source = some request.source ∧
      request.settings = settingsOf sourced) ↔ Asks given fallback request := by
  have hmem : ∀ entry, entry ∈ progress.given ↔ entry ∈ given := fun entry => by
    rw [hgiven, List.mem_reverse]
  have hkeys : ∀ parameter, parameter ∈ progress.given.map Prod.fst ↔ parameter ∈ given.map Prod.fst :=
    fun parameter => by simp only [List.mem_map, hmem]
  have hother : ∀ path parameter text, parameter ≠ Parameter.source →
      ((parameter, text) ∈ (Parameter.source, path) :: progress.given ↔ (parameter, text) ∈ given) :=
    fun path parameter text hne => by simp [hne, hmem]
  have hnodup' : (progress.given.map Prod.fst).Nodup := by
    rwa [hgiven, List.map_reverse, List.nodup_reverse]
  have hallowed' : ∀ entry ∈ progress.given, Allowed entry.1 entry.2 := fun entry he =>
    hallowed entry ((hmem entry).mp he)
  constructor
  · rintro ⟨sourced, hvariable, htype, hsource, hsettings⟩
    rcases withVariable_eq_ok_iff.mp hvariable with ⟨-, rfl⟩ | ⟨path, rfl, hpath, hnot, rfl⟩
    · rw [Progress.value?_eq_some_iff hnodup', hmem] at htype hsource
      rw [eq_settingsOf_iff hnodup' hallowed'] at hsettings
      exact ⟨hnodup, hallowed, htype, .inl hsource, hsettings.of_iff fun _ _ _ => hmem _⟩
    · have hnodup'' : (((Parameter.source, path) :: progress.given).map Prod.fst).Nodup :=
        List.nodup_cons.mpr ⟨hnot, hnodup'⟩
      have hallowed'' : ∀ entry ∈ (Parameter.source, path) :: progress.given, Allowed entry.1 entry.2 :=
        List.forall_mem_cons.mpr ⟨hpath, hallowed'⟩
      rw [Progress.value?_eq_some_iff hnodup''] at htype hsource
      obtain rfl := eq_of_mem hnodup'' hsource List.mem_cons_self
      have hchosen := (eq_settingsOf_iff (by exact hnodup'') (by exact hallowed'')).mp hsettings
      exact ⟨hnodup, hallowed, (hother _ .type _ nofun).mp htype,
        .inr ⟨(hkeys _).not.mp hnot, rfl, hpath⟩, hchosen.of_iff (hother request.source)⟩
  · intro h
    rcases h.source with hsource | ⟨hnot, hpath, hne⟩
    · refine ⟨progress, withVariable_eq_ok_iff.mpr (.inl ⟨.inr ?_, rfl⟩), ?_, ?_, ?_⟩
      · exact (hkeys _).mpr (List.mem_map_of_mem hsource)
      · rw [Progress.value?_eq_some_iff hnodup', hmem]
        exact h.type
      · rwa [Progress.value?_eq_some_iff hnodup', hmem]
      · rw [eq_settingsOf_iff hnodup' hallowed']
        exact h.settings.of_iff fun _ _ _ => (hmem _).symm
    · have hnot' := (hkeys _).not.mpr hnot
      have hnodup'' : (((Parameter.source, request.source) :: progress.given).map Prod.fst).Nodup :=
        List.nodup_cons.mpr ⟨hnot', hnodup'⟩
      have hallowed'' : ∀ entry ∈ (Parameter.source, request.source) :: progress.given,
          Allowed entry.1 entry.2 := List.forall_mem_cons.mpr ⟨hne, hallowed'⟩
      refine ⟨_, withVariable_eq_ok_iff.mpr (.inr ⟨request.source, hpath, hne, hnot', rfl⟩), ?_, ?_, ?_⟩
      · rw [Progress.value?_eq_some_iff hnodup'']
        exact (hother _ .type _ nofun).mpr h.type
      · rw [Progress.value?_eq_some_iff hnodup'']
        exact List.mem_cons_self
      · refine (eq_settingsOf_iff (by exact hnodup'') (by exact hallowed'')).mpr ?_
        exact h.settings.of_iff fun parameter text hp => (hother request.source parameter text hp).symm

/-- **A request is read exactly if it is asked for.** -/
theorem requestOf_eq_ok_iff : requestOf arguments fallback = .ok request ↔
    ∃ given, Written given arguments ∧ Asks given fallback request := by
  rw [requestOf_eq_ok_iff_ends]
  constructor
  · rintro ⟨settled, sourced, ⟨read, hread, hsettle⟩, hsourced⟩
    obtain ⟨given, hwritten, hnodup, hallowed, hgiven⟩ :=
      Progress.ends_iff.mp ⟨read, settled, hread, hsettle, rfl⟩
    exact ⟨given, hwritten, (asks_iff_of_given hgiven hnodup hallowed).mp ⟨sourced, hsourced⟩⟩
  · rintro ⟨given, hwritten, hasks⟩
    obtain ⟨read, settled, hread, hsettle, hgiven⟩ :=
      Progress.ends_iff.mpr ⟨given, hwritten, hasks.once, hasks.allowed, rfl⟩
    obtain ⟨sourced, hsourced⟩ := (asks_iff_of_given hgiven hasks.once hasks.allowed).mpr hasks
    exact ⟨settled, sourced, ⟨read, hread, hsettle⟩, hsourced⟩

end EnumTables.Command
