import EnumTables.Command.Run
import Mathlib.Tactic.Common

/-!
# What is done for a request

The generator asks its surroundings to read, to write and to format.  Here its runs are followed in given
surroundings, together with a record of what they were asked for.

* `Host.recorded` — surroundings which put down what they are asked for, and are otherwise the same.
* `Does` — what an action comes to, with and without a record.
* `does_generateToFile_of_error`, `does_generateToFile_of_unwritten`, `does_generateToFile_of_written` — the
  three ways in which a request ends.
* `does_run` — the command does what it is asked for.
-/

namespace EnumTables.Generation

open EnumTables.Files

variable {σ α β : Type}

/-! ## Surroundings with a record -/

/-- What surroundings are asked for. -/
inductive Deed where
  | read (path : String)
  | write (path text : String)
  | format (arguments : List String)
deriving DecidableEq, Repr

/-- An action which is put down behind what was done before. -/
def recording (deed : Deed) (action : StateM σ α) : StateM (σ × List Deed) α := fun state =>
  pure ((action.run state.1).1, ((action.run state.1).2, state.2 ++ [deed]))

/-- **Surroundings which put down what they are asked for**, and are otherwise the same. -/
def Host.recorded (host : Host (StateM σ)) : Host (StateM (σ × List Deed)) where
  read path := recording (.read path) (host.read path)
  write path text := recording (.write path text) (host.write path text)
  format arguments := recording (.format arguments) (host.format arguments)

/-- **What an action comes to**: its answer, what it leaves, and what is put down about it by the same action
in surroundings with a record. -/
structure Does (action : StateM σ α) (recorded : StateM (σ × List Deed) α) (world : σ) (answer : α)
    (after : σ) (log : List Deed) : Prop where
  run : action.run world = (answer, after)
  recorded : ∀ deeds, recorded.run (world, deeds) = (answer, (after, deeds ++ log))

variable {host : Host (StateM σ)} {world between after : σ} {log more : List Deed} {answer : α}
  {time source type path text : String} {settings : Settings} {report : Report Output} {output : Output}
  {fault : Fault} {trouble : Trouble}

namespace Does

lemma pure (answer : α) (world : σ) : Does (pure answer) (pure answer) world answer world [] :=
  ⟨rfl, fun deeds => by rw [List.append_nil]; rfl⟩

lemma bind {action : StateM σ α} {recorded : StateM (σ × List Deed) α} {next : α → StateM σ β}
    {nextRecorded : α → StateM (σ × List Deed) β} {result : β}
    (h : Does action recorded world answer between log)
    (hn : Does (next answer) (nextRecorded answer) between result after more) :
    Does (action >>= next) (recorded >>= nextRecorded) world result after (log ++ more) where
  run := by
    rw [StateT.run_bind, h.run]
    exact hn.run
  recorded deeds := by
    rw [StateT.run_bind, h.recorded, ← List.append_assoc]
    exact hn.recorded _

lemma recording {action : StateM σ α} (deed : Deed) (h : action.run world = (answer, after)) :
    Does action (recording deed action) world answer after [deed] := by
  refine ⟨h, fun deeds => ?_⟩
  change ((action.run world).1, ((action.run world).2, deeds ++ [deed])) = _
  rw [h]

end Does

/-! ## Runs of the generator -/

/-- What comes of a request whose source was read. -/
def readReport (time source type : String) (settings : Settings) : Except Trouble String → Report Output
  | .error trouble => ⟨.error (.read source trouble), []⟩
  | .ok text => ofText source type text time settings

lemma does_generate {text : Except Trouble String} (h : (host.read source).run world = (text, after)) :
    Does (generate host time source type settings) (generate host.recorded time source type settings) world
      (readReport time source type settings text) after [.read source] := by
  refine (Does.recording (.read source) h).bind ?_
  cases text <;> exact .pure _ _

lemma does_writeFile {result : Except Trouble Unit}
    (h : (host.write path text).run world = (result, after)) :
    Does (writeFile host path text) (writeFile host.recorded path text) world
      (result.mapError (.write path)) after [.write path text] :=
  (Does.recording (.write path text) h).bind (.pure _ _)

lemma does_formatFile {formatting : Formatting} (hzero : path.toList.contains '\x00' = false)
    (h : (host.format (formatArguments path)).run world = (formatting, after)) :
    ∃ result, Does (formatFile host path) (formatFile host.recorded path) world result after
      [.format (formatArguments path)] := by
  rw [formatFile, formatFile, hzero]
  cases formatting with
  | done => exact ⟨_, (Does.recording _ h).bind (.pure _ _)⟩
  | refused complaint => exact ⟨_, (Does.recording _ h).bind (.pure _ _)⟩
  | notStarted reason => exact ⟨_, (Does.recording _ h).bind (.pure _ _)⟩

/-- Formatting does nothing, or it asks the formatter once. -/
lemma does_formatAsWished (host : Host (StateM σ)) (path : String) (wished : Bool) (world : σ) :
    ∃ warnings after log, Does (formatAsWished host path wished) (formatAsWished host.recorded path wished)
        world warnings after log ∧
      ((log = [] ∧ after = world) ∨
        (wished = true ∧ log = [.format (formatArguments path)] ∧
          after = ((host.format (formatArguments path)).run world).2)) := by
  cases wished with
  | false => exact ⟨_, _, _, .pure _ _, .inl ⟨rfl, rfl⟩⟩
  | true =>
      cases hzero : path.toList.contains '\x00' with
      | true =>
          have hfile : Does (formatFile host path) (formatFile host.recorded path) world
              (.error (.format path "nul byte found in provided data")) world [] := by
            rw [formatFile, formatFile, hzero]
            exact .pure _ _
          exact ⟨_, _, _, hfile.bind (.pure _ _), .inl ⟨rfl, rfl⟩⟩
      | false =>
          have hformat : (host.format (formatArguments path)).run world = (_, _) := rfl
          obtain ⟨result, hfile⟩ := does_formatFile hzero hformat
          cases result with
          | ok => exact ⟨_, _, _, hfile.bind (.pure _ _), .inr ⟨rfl, rfl, rfl⟩⟩
          | error fault => exact ⟨_, _, _, hfile.bind (.pure _ _), .inr ⟨rfl, rfl, rfl⟩⟩

section

variable (hg : Does (generate host time source type settings) (generate host.recorded time source type settings)
  world report between log)

include hg

lemma does_generateToFile_of_error (hr : report.outcome = .error fault) :
    Does (generateToFile host time source type settings)
      (generateToFile host.recorded time source type settings) world ⟨.error fault, report.events⟩ between
      log := by
  rw [generateToFile, generateToFile, ← List.append_nil log]
  refine hg.bind ?_
  rw [hr]
  exact .pure _ _

lemma does_generateToFile_of_unwritten {after : σ} (hr : report.outcome = .ok output)
    (hw : (host.write output.path output.code).run between = (.error trouble, after)) :
    Does (generateToFile host time source type settings)
      (generateToFile host.recorded time source type settings) world
      ⟨.error (.write output.path trouble), report.events⟩ after
      (log ++ [.write output.path output.code]) := by
  rw [generateToFile, generateToFile]
  refine hg.bind ?_
  rw [hr]
  exact (does_writeFile hw).bind (.pure _ _)

lemma does_generateToFile_of_written {written : σ} {warnings : List Event} (hr : report.outcome = .ok output)
    (hw : (host.write output.path output.code).run between = (.ok (), written))
    (hf : Does (formatAsWished host output.path settings.formatted)
      (formatAsWished host.recorded output.path settings.formatted) written warnings after more) :
    Does (generateToFile host time source type settings)
      (generateToFile host.recorded time source type settings) world
      ⟨.ok output.path, report.events ++ warnings ++ [.generated output.path source output.type]⟩ after
      (log ++ .write output.path output.code :: more) := by
  rw [generateToFile, generateToFile, ← List.append_nil more]
  refine hg.bind ?_
  rw [hr]
  exact (does_writeFile hw).bind (hf.bind (.pure _ _))

end

/-! ## The command -/

/-- The command does what it is asked for, and says in its exit code what came of it. -/
lemma does_run {request : Command.Request} {environment : Command.Environment} {arguments : List String}
    {report : Report String} (hrequest : Command.requestOf arguments environment.source = .ok request)
    (h : Does (generateToFile host time request.source request.type request.settings)
      (generateToFile host.recorded time request.source request.type request.settings) world report after
      log) :
    ∃ outcome, Does (Command.run host time environment arguments)
        (Command.run host.recorded time environment arguments) world outcome after log ∧
      outcome.code = if report.outcome.isOk then 0 else 1 := by
  rw [Command.run, Command.run, hrequest, ← List.append_nil log]
  refine ⟨_, h.bind (.pure _ _), ?_⟩
  rcases houtcome : report.outcome with fault | path
  · simp only [Command.reportOutcome, houtcome, Command.Outcome.after, Except.isOk]
    rfl
  · simp only [Command.reportOutcome, houtcome, Command.Outcome.after]
    rfl

end EnumTables.Generation
