import EnumTables.Proofs.GeneratorRuns
import EnumTables.Proofs.Requests
import EnumTables.Proofs.StoreLaws

/-!
# All or nothing

A companion is generated before anything is written, and what goes wrong after it was written is only logged.
So either a source has its companion, or no file is other than it was.

* `readReport_cases` — what is generated does not depend on the time, but for the time which it tells.
* `Host.Lawful` — surroundings in which reading changes nothing.
* `AllOrNothing` — what comes of a request, and what is done for it.
* `generateToFile_allOrNothing` — so it is in all lawful surroundings, also if a command line asks for it.
* `lawful_host` — trees of files are lawful, with whatever formatter.
-/

namespace EnumTables.Generation

open EnumTables.Files EnumTables.Text EnumTables.Token

variable {σ : Type} {host : Host (StateM σ)} {world after : σ} {log more : List Deed}
  {time source type path text : String} {settings : Settings} {output : Output} {fault : Fault}
  {trouble : Trouble}

/-! ## What is generated -/

lemma groupOf_eq_error {convention : NameCase} (h : groupOf source type text convention = .error fault) :
    ∃ position message, fault = .source source position message := by
  rcases hfile : Source.fileOf text with misread | file
  · simp only [groupOf, hfile, Except.mapError, bind, Except.bind, Except.error.injEq] at h
    exact ⟨_, _, h.symm⟩
  · rcases hgroup : Group.ofFile file type with failure | group
    · simp only [groupOf, hfile, hgroup, Except.mapError, bind, Except.bind, Except.error.injEq] at h
      exact ⟨_, _, h.symm⟩
    · rcases hname : group.rename convention with failure | renamed
      · simp only [groupOf, hfile, hgroup, hname, Except.mapError, bind, Except.bind,
          Except.error.injEq] at h
        exact ⟨_, _, h.symm⟩
      · simp only [groupOf, hfile, hgroup, hname, Except.mapError, bind, Except.bind, reduceCtorEq] at h

/-- The companion of a source, at a time. -/
def companionAt (source type : String) (settings : Settings) (items : List Token) (time : String) : Output :=
  ⟨outputPath source settings, type,
    Companion.fileText items (if settings.timestamp then some time else none)⟩

/-- **What is generated does not depend on the time**, but for the time which it tells.  Nothing is formatted
yet, so that no formatter can have complained. -/
lemma readReport_cases (source type : String) (settings : Settings) (text : Except Trouble String) :
    (∃ fault, (∀ path complaint, fault ≠ .format path complaint) ∧
      ∀ time, (readReport time source type settings text).outcome = .error fault) ∨
    ∃ items, ∀ time, (readReport time source type settings text).outcome =
      .ok (companionAt source type settings items time) := by
  rcases text with trouble | text
  · exact .inl ⟨.read source trouble, fun _ _ => by simp, fun _ => rfl⟩
  · rcases hgroup : groupOf source type text settings.convention with fault | group
    · obtain ⟨position, message, rfl⟩ := groupOf_eq_error hgroup
      exact .inl ⟨.source source position message, fun _ _ => by simp,
        fun time => by simp only [readReport, ofText, hgroup]⟩
    · rcases hpath : Source.pathOf settings.runtime with misread | runtime
      · exact .inl ⟨.runtime settings.runtime, fun _ _ => by simp,
          fun time => by simp only [readReport, ofText, hgroup, hpath]⟩
      · exact .inr ⟨(Companion.ofGroup group).code runtime settings.registry,
          fun time => by simp only [readReport, ofText, hgroup, hpath, codeOf, companionAt]⟩

/-! ## Requests -/

/-- **Surroundings in which reading changes nothing.**  What was written need not be what is read. -/
def Host.Lawful (host : Host (StateM σ)) : Prop :=
  ∀ path world, ((host.read path).run world).2 = world

/-- What is generated in a world at a time. -/
def generatedIn (host : Host (StateM σ)) (world : σ) (source type : String) (settings : Settings)
    (time : String) : Except Fault Output :=
  ((generate host time source type settings).run world).1.outcome

/-- **What comes of a request**, and what is done for it. -/
structure AllOrNothing (host : Host (StateM σ)) (world : σ) (source type : String) (settings : Settings)
    (time : String) (result : Except Fault String) (after : σ) (log : List Deed) : Prop where
  /-- What is not generated, at whatever time, is refused for the same fault, and nothing was changed. -/
  refused : ∀ time' fault, generatedIn host world source type settings time' = .error fault →
    result = .error fault ∧ after = world ∧ log = [.read source]
  /-- What is generated goes where it was wished, or else beside its source, and at any other time it is the
  same but for the time which it tells. -/
  timeless : ∀ output, generatedIn host world source type settings time = .ok output →
    output.path = settings.output.getD (defaultOutput source) ∧
    ∃ items, ∀ time', generatedIn host world source type settings time' =
      .ok ⟨output.path, type, Companion.fileText items (if settings.timestamp then some time' else none)⟩
  /-- What cannot be written is refused, and nothing is formatted. -/
  unwritten : ∀ output trouble left, generatedIn host world source type settings time = .ok output →
    (host.write output.path output.code).run world = (.error trouble, left) →
    result = .error (.write output.path trouble) ∧ after = left ∧
      log = [.read source, .write output.path output.code]
  /-- What was written is not refused any more, and is formatted at most. -/
  written : ∀ output left, generatedIn host world source type settings time = .ok output →
    (host.write output.path output.code).run world = (.ok (), left) →
    result = .ok output.path ∧
      ((log = [.read source, .write output.path output.code] ∧ after = left) ∨
        (settings.formatted = true ∧
          log = [.read source, .write output.path output.code, .format (formatArguments output.path)] ∧
          after = ((host.format (formatArguments output.path)).run left).2))
  /-- The file stays as it was written, unless a formatter did something to it.  What was just written has to
  be what is read there, which a device without memory would not do. -/
  kept : ∀ output left formatting formatted, generatedIn host world source type settings time = .ok output →
    (host.write output.path output.code).run world = (.ok (), left) →
    ((host.read output.path).run left).1 = .ok output.code →
    (host.format (formatArguments output.path)).run left = (formatting, formatted) →
    settings.formatted = false ∨ (formatting ≠ .done ∧
      ((host.read output.path).run formatted).1 = ((host.read output.path).run left).1) →
    ((host.read output.path).run after).1 = .ok output.code
  /-- What the formatter says is not what comes of the request. -/
  neverFormat : ∀ path complaint, result ≠ .error (.format path complaint)

section

variable {items : List Token}

lemma allOrNothing_of_error (hall : ∀ time, generatedIn host world source type settings time = .error fault)
    (hformat : ∀ path complaint, fault ≠ .format path complaint) :
    AllOrNothing host world source type settings time (.error fault) world [.read source] := by
  have hno : ∀ output, generatedIn host world source type settings time ≠ .ok output := by
    intro output h
    rw [hall] at h
    cases h
  refine ⟨fun time' fault' h => ?_, fun output h => (hno output h).elim,
    fun output _ _ h => (hno output h).elim, fun output _ h => (hno output h).elim,
    fun output _ _ _ h => (hno output h).elim, fun path complaint h => ?_⟩
  · rw [hall] at h
    cases h
    exact ⟨rfl, rfl, rfl⟩
  · exact hformat path complaint (Except.error.inj h)

variable (hall : ∀ time, generatedIn host world source type settings time =
  .ok (companionAt source type settings items time))

include hall

lemma generated_ne_error {time' : String} :
    generatedIn host world source type settings time' ≠ .error fault := by
  rw [hall]
  exact nofun

lemma eq_companionAt (h : generatedIn host world source type settings time = .ok output) :
    output = companionAt source type settings items time := by
  rw [hall] at h
  exact (Except.ok.inj h).symm

lemma timeless_of_generated (h : generatedIn host world source type settings time = .ok output) :
    output.path = settings.output.getD (defaultOutput source) ∧
    ∃ items, ∀ time', generatedIn host world source type settings time' =
      .ok ⟨output.path, type, Companion.fileText items (if settings.timestamp then some time' else none)⟩ := by
  obtain rfl := eq_companionAt hall h
  exact ⟨rfl, items, hall⟩

lemma allOrNothing_of_unwritten {left : σ}
    (hw : (host.write (outputPath source settings)
      (companionAt source type settings items time).code).run world = (.error trouble, left)) :
    AllOrNothing host world source type settings time (.error (.write (outputPath source settings) trouble))
      left [.read source, .write (outputPath source settings)
        (companionAt source type settings items time).code] := by
  have hno : ∀ output left', generatedIn host world source type settings time = .ok output →
      (host.write output.path output.code).run world ≠ (.ok (), left') := by
    intro output left' h hw'
    obtain rfl := eq_companionAt hall h
    cases hw.symm.trans hw'
  refine ⟨fun _ _ h => (generated_ne_error hall h).elim, fun _ => timeless_of_generated hall,
    fun output trouble' left' h hw' => ?_, fun output left' h hw' => (hno output left' h hw').elim,
    fun output left' _ _ h hw' => (hno output left' h hw').elim, by simp⟩
  obtain rfl := eq_companionAt hall h
  cases hw.symm.trans hw'
  exact ⟨rfl, rfl, rfl⟩

lemma allOrNothing_of_written {left after : σ}
    (hw : (host.write (outputPath source settings)
      (companionAt source type settings items time).code).run world = (.ok (), left))
    (hlog : (more = [] ∧ after = left) ∨
      (settings.formatted = true ∧ more = [.format (formatArguments (outputPath source settings))] ∧
        after = ((host.format (formatArguments (outputPath source settings))).run left).2)) :
    AllOrNothing host world source type settings time (.ok (outputPath source settings)) after
      ([.read source] ++ .write (outputPath source settings)
        (companionAt source type settings items time).code :: more) := by
  refine ⟨fun _ _ h => (generated_ne_error hall h).elim, fun _ => timeless_of_generated hall,
    fun output trouble left' h hw' => ?_, fun output left' h hw' => ?_,
    fun output left' formatting formatted h hw' hread hf hleaves => ?_, by simp⟩
  · obtain rfl := eq_companionAt hall h
    cases hw.symm.trans hw'
  · obtain rfl := eq_companionAt hall h
    cases hw.symm.trans hw'
    refine ⟨rfl, ?_⟩
    rcases hlog with ⟨rfl, rfl⟩ | ⟨hformatted, rfl, rfl⟩
    · exact .inl ⟨rfl, rfl⟩
    · exact .inr ⟨hformatted, rfl, rfl⟩
  · obtain rfl := eq_companionAt hall h
    cases hw.symm.trans hw'
    rcases hlog with ⟨-, rfl⟩ | ⟨hformatted, -, rfl⟩
    · exact hread
    · rcases hleaves with hnot | ⟨-, hsame⟩
      · exact absurd (hnot.symm.trans hformatted) (by decide)
      · have hafter : ((host.format (formatArguments (outputPath source settings))).run left).2 =
            formatted := congrArg Prod.snd hf
        rw [hafter]
        exact hsame.trans hread

end

/-- In lawful surroundings, a request comes to all or nothing. -/
lemma exists_allOrNothing (hl : host.Lawful) (world : σ) (source type time : String)
    (settings : Settings) :
    ∃ report after log,
      Does (generateToFile host time source type settings)
        (generateToFile host.recorded time source type settings) world report after log ∧
      AllOrNothing host world source type settings time report.outcome after log := by
  rcases hread : (host.read source).run world with ⟨text, left⟩
  obtain rfl : world = left := by
    have hleaves := hl source world
    rw [hread] at hleaves
    exact hleaves.symm
  have hgenerate : ∀ time, Does (generate host time source type settings)
      (generate host.recorded time source type settings) world
      (readReport time source type settings text) world [.read source] := fun _ => does_generate hread
  have hgenerated : ∀ time, generatedIn host world source type settings time =
      (readReport time source type settings text).outcome := fun time => by
    rw [generatedIn, (hgenerate time).run]
  rcases readReport_cases source type settings text with ⟨fault, hformat, hfault⟩ | ⟨items, hitems⟩
  · exact ⟨_, _, _, does_generateToFile_of_error (hgenerate time) (hfault time),
      allOrNothing_of_error (fun time => (hgenerated time).trans (hfault time)) hformat⟩
  · have hall := fun time => (hgenerated time).trans (hitems time)
    rcases hwrite : (host.write (outputPath source settings)
      (companionAt source type settings items time).code).run world with ⟨trouble | ⟨⟩, left⟩
    · exact ⟨_, _, _, does_generateToFile_of_unwritten (hgenerate time) (hitems time) hwrite,
        allOrNothing_of_unwritten hall hwrite⟩
    · obtain ⟨warnings, after, log, hdoes, hlog⟩ :=
        does_formatAsWished host (outputPath source settings) settings.formatted left
      exact ⟨_, _, _, does_generateToFile_of_written (hgenerate time) (hitems time) hwrite hdoes,
        allOrNothing_of_written hall hwrite hlog⟩

/-- **All or nothing.**  In lawful surroundings a request leaves all files alone, or writes its companion;
what a formatter does is only logged.  The command does the same for every command line which asks for the
request, and says in its exit code what came of it. -/
theorem generateToFile_allOrNothing (hl : host.Lawful) (world : σ) (source type time : String)
    (settings : Settings) :
    ∃ report after log,
      Does (generateToFile host time source type settings)
        (generateToFile host.recorded time source type settings) world report after log ∧
      AllOrNothing host world source type settings time report.outcome after log ∧
      ∀ arguments environment,
        (Command.requestOf arguments environment.source = .ok ⟨type, source, settings⟩ ↔
          ∃ given, Command.Written given arguments ∧
            Command.Asks given environment.source ⟨type, source, settings⟩) ∧
        ((∃ given, Command.Written given arguments ∧
            Command.Asks given environment.source ⟨type, source, settings⟩) →
          ∃ outcome, Does (Command.run host time environment arguments)
              (Command.run host.recorded time environment arguments) world outcome after log ∧
            outcome.code = if report.outcome.isOk then 0 else 1) := by
  obtain ⟨report, after, log, hdoes, hall⟩ := exists_allOrNothing hl world source type time settings
  refine ⟨report, after, log, hdoes, hall, fun arguments environment => ?_⟩
  exact ⟨Command.requestOf_eq_ok_iff, fun hasks => does_run (Command.requestOf_eq_ok_iff.mpr hasks) hdoes⟩

/-! ## Trees of files -/

lemma run_read_host (formatter : Formatter) (path : String) (store : Store) :
    ((Store.host formatter).read path).run store = (store.read path, store) := rfl

lemma run_write_host {formatter : Formatter} {store left : Store} :
    ((Store.host formatter).write path text).run store = (.ok (), left) ↔
      store.write path text = .ok left := by
  change Store.writing path text store = ((.ok (), left) : Except Trouble Unit × Store) ↔ _
  unfold Store.writing
  rcases store.write path text with trouble | written
  · constructor <;> intro h <;> cases h
  · constructor
    · intro h
      cases h
      rfl
    · intro h
      cases h
      rfl

/-- **Trees of files are lawful**, with whatever formatter. -/
theorem lawful_host (formatter : Formatter) : (Store.host formatter).Lawful :=
  fun _ _ => rfl

/-- A tree with one source. -/
def loneSource : Store :=
  Store.empty.put ["a.rs".toList] (.file "struct A(i8); const B: A = A(-1);".toUTF8)

/-- Its companion is to go beside it, as it is. -/
def plainSettings : Settings := { output := some "b.rs", formatted := false }

/-- What is given to ask for that. -/
def plainGiven : List (Command.Parameter × String) :=
  [(.type, "A"), (.source, "a.rs"), (.output, "b.rs"), (.noRustfmt, "")]

/-- A command line in which it is given. -/
def plainArguments : List String :=
  ["--type", "A", "--source=a.rs", "--output", "b.rs", "--no-rustfmt"]

lemma written_plainGiven : Command.Written plainGiven plainArguments := by
  have hform : plainArguments = ["--" ++ "type", "A", "--" ++ "source" ++ "=" ++ "a.rs",
      "--" ++ "output", "b.rs", "--" ++ "no-rustfmt"] := by decide
  have hA : Command.ValueLike "A" := fun _ _ => by simp
  have hb : Command.ValueLike "b.rs" := fun _ _ => by simp
  rw [hform]
  exact .apart (by decide) hA (.joined (by decide) (.apart (by decide) hb (.alone (by decide) .nil)))

lemma asks_plainGiven : Command.Asks plainGiven none ⟨"A", "a.rs", plainSettings⟩ where
  once := by decide
  allowed := by simp [plainGiven, Command.Allowed]
  type := by decide
  source := .inl (by decide)
  settings :=
    { output := fun path => by simp [plainGiven, plainSettings, eq_comm]
      convention := .inr (by decide)
      runtime := .inr (by decide)
      registry := by decide
      timestamp := by decide
      formatted := by decide }

theorem generateToFile_allOrNothing_loneSource :
    ∃ report after log code,
      Does (generateToFile (Store.host Formatter.absent) "" "a.rs" "A" plainSettings)
        (generateToFile (Store.host Formatter.absent).recorded "" "a.rs" "A" plainSettings)
        loneSource report after log ∧
      report.outcome = .ok "b.rs" ∧ log = [.read "a.rs", .write "b.rs" code] ∧
      after.read "b.rs" = .ok code ∧
      ∃ outcome, Does (Command.run (Store.host Formatter.absent) "" ⟨none, none, none⟩ plainArguments)
          (Command.run (Store.host Formatter.absent).recorded "" ⟨none, none, none⟩ plainArguments)
          loneSource outcome after log ∧ outcome.code = 0 := by
  have hok : (generatedIn (Store.host Formatter.absent) loneSource "a.rs" "A" plainSettings "").isOk =
      true := by decide +kernel
  have htarget : loneSource.target "b.rs" = .ok ["b.rs".toList] := by decide +kernel
  obtain ⟨report, after, log, hdoes, hall, hcommand⟩ :=
    generateToFile_allOrNothing (lawful_host Formatter.absent) loneSource "a.rs" "A" "" plainSettings
  rcases houtput : generatedIn (Store.host Formatter.absent) loneSource "a.rs" "A" plainSettings "" with
    fault | ⟨path, type, code⟩
  · rw [houtput] at hok
    cases hok
  · obtain rfl : path = "b.rs" := (hall.timeless _ houtput).1
    have hwrite : ((Store.host Formatter.absent).write "b.rs" code).run loneSource =
        (.ok (), loneSource.put ["b.rs".toList] (.file code.toUTF8)) := by
      rw [run_write_host, Store.write, htarget]
      rfl
    obtain ⟨hresult, hlog⟩ := hall.written _ _ houtput hwrite
    have hread : (((Store.host Formatter.absent).read "b.rs").run
        (loneSource.put ["b.rs".toList] (.file code.toUTF8))).1 = .ok code :=
      read_of_write (run_write_host.mp hwrite)
    have hkept := hall.kept _ _ _ _ houtput hwrite hread rfl (.inl rfl)
    simp only [run_read_host] at hkept
    have hlog' := hlog.resolve_right fun h => absurd h.1 (by decide)
    obtain ⟨outcome, hdoes', hcode⟩ := (hcommand plainArguments ⟨none, none, none⟩).2
      ⟨plainGiven, written_plainGiven, asks_plainGiven⟩
    rw [hresult] at hcode
    exact ⟨report, after, log, code, hdoes, hresult, hlog'.1, hkept, outcome, hdoes', hcode⟩

end EnumTables.Generation
