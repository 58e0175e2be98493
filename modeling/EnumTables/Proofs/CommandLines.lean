import EnumTables.Command.Arguments
import Mathlib.Data.List.Nodup
import Mathlib.Data.List.TakeWhile
import Mathlib.Tactic.Common

/-!
# The form of command lines

A command line is read argument by argument, with a parameter which may still wait for its value.  Here its
form is said as a whole, with the names as they are written.

* `Written` — the command lines in which something is given: `--name value`, `--name=value` and `--name`.
* `Allowed` — the values which a parameter can have.
* `Progress.Takes` — what one more argument does to what was read; `take_eq_ok_iff` ties it to the reading.
* `Progress.ends_pending_iff`, `Progress.ends_awaiting_iff` — a parameter which waits, with its value and
  without.
* `Progress.ends_iff` — by induction, a whole command line ends with all that is given in it, as long as
  each parameter is given once.
-/

namespace EnumTables.Command

open EnumTables.Generation EnumTables.Text

/-! ## The form of a command line -/

/-- The names with which a value is given. -/
def valueNames : List (String × Parameter) :=
  [("type", .type), ("source", .source), ("output", .output), ("case", .convention), ("runtime", .runtime)]

/-- The names which are given alone. -/
def flagNames : List (String × Parameter) :=
  [("registry", .registry), ("no-timestamp", .noTimestamp), ("no-rustfmt", .noRustfmt)]

/-- The names of the conventions. -/
def conventionNames : List (String × NameCase) :=
  [("verbatim", .verbatim), ("pascal", .pascal), ("snake", .snake), ("kebab", .kebab), ("lower", .lower),
    ("upper", .upper)]

/-- Whether an argument can be a value: a dash with something behind it would begin a parameter. -/
def ValueLike (argument : String) : Prop :=
  ∀ letter rest, argument.toList ≠ '-' :: letter :: rest

/-- **The command lines in which something is given.**  A parameter without a value is given with an empty
one, and two dashes may end the command line. -/
inductive Written : List (Parameter × String) → List String → Prop
  | nil : Written [] []
  | ended : Written [] ["--"]
  | apart {name parameter value given arguments} :
      (name, parameter) ∈ valueNames → ValueLike value → Written given arguments →
      Written ((parameter, value) :: given) (("--" ++ name) :: value :: arguments)
  | joined {name parameter value given arguments} :
      (name, parameter) ∈ valueNames → Written given arguments →
      Written ((parameter, value) :: given) (("--" ++ name ++ "=" ++ value) :: arguments)
  | alone {name parameter given arguments} :
      (name, parameter) ∈ flagNames → Written given arguments →
      Written ((parameter, "") :: given) (("--" ++ name) :: arguments)

/-- The values which a parameter can have. -/
def Allowed : Parameter → String → Prop
  | .source, value | .output, value => value ≠ ""
  | .convention, value => ∃ convention, (value, convention) ∈ conventionNames
  | _, _ => True

/-! ## Names and values -/

lemma mapError_eq_ok_iff {ε ε' α : Type} {f : ε → ε'} {x : Except ε α} {a : α} :
    x.mapError f = .ok a ↔ x = .ok a := by
  cases x <;> simp [Except.mapError]

lemma ofLabel?_eq_some_iff {name : String} {convention : NameCase} :
    NameCase.ofLabel? name = some convention ↔ (name, convention) ∈ conventionNames := by
  constructor
  · intro h
    have hlabel := List.find?_some h
    rw [beq_iff_eq] at hlabel
    subst hlabel
    cases convention <;> decide
  · intro h
    have hname : name = convention.label := by
      cases convention <;> simpa [conventionNames, NameCase.label] using h
    rw [hname, NameCase.ofLabel?_label]

lemma ofLong?_eq_some_iff {name : String} {parameter : Parameter} :
    Parameter.ofLong? name = some parameter ↔ name = parameter.long := by
  constructor
  · intro h
    have hlong := List.find?_some h
    rw [beq_iff_eq] at hlong
    exact hlong.symm
  · rintro rfl
    exact Parameter.ofLong?_long parameter

lemma mem_valueNames_iff {name : String} {parameter : Parameter} : (name, parameter) ∈ valueNames ↔
    Parameter.ofLong? name = some parameter ∧ parameter.takesValue = true := by
  rw [ofLong?_eq_some_iff]
  cases parameter <;> simp [valueNames, Parameter.takesValue, Parameter.valueName?, Parameter.long]

lemma mem_flagNames_iff {name : String} {parameter : Parameter} : (name, parameter) ∈ flagNames ↔
    Parameter.ofLong? name = some parameter ∧ parameter.takesValue = false ∧ parameter ≠ .help ∧
      parameter ≠ .version := by
  rw [ofLong?_eq_some_iff]
  cases parameter <;> simp [flagNames, Parameter.takesValue, Parameter.valueName?, Parameter.long]

/-- No name has an equals sign in it, and none is empty. -/
lemma name_of_mem {name : String} {parameter : Parameter} (h : (name, parameter) ∈ valueNames ++ flagNames) :
    '=' ∉ name.toList ∧ name ≠ "" := by
  have hall : ∀ entry ∈ valueNames ++ flagNames, '=' ∉ entry.1.toList ∧ entry.1 ≠ "" := by decide
  exact hall _ h

lemma refused?_eq_none_iff {parameter : Parameter} {value : String} :
    refused? parameter value = none ↔ Allowed parameter value := by
  cases parameter
  case source | output => simp [refused?, Allowed]
  case convention =>
    simp only [refused?, Allowed, ← ofLabel?_eq_some_iff, ← Option.isSome_iff_exists]
    split_ifs with hempty hlabel
    · rw [String.isEmpty_iff] at hempty
      subst hempty
      decide
    · simpa using hlabel
    · simpa [Option.isSome_iff_ne_none] using hlabel
  all_goals simp [refused?, Allowed]

/-! ## One more argument -/

namespace Progress

/-- **What one more argument does** to what was read. -/
inductive Takes (progress : Progress) : String → Progress → Prop
  | ended : Takes progress "--" { progress with closed := true }
  | named {name parameter settled} : (name, parameter) ∈ valueNames → progress.settle = .ok settled →
      Takes progress ("--" ++ name) { settled with pending := some ⟨parameter, none⟩ }
  | joined {name parameter value settled after} : (name, parameter) ∈ valueNames →
      progress.settle = .ok settled → settled.accept parameter (some value) = .ok after →
      Takes progress ("--" ++ name ++ "=" ++ value) after
  | alone {name parameter settled after} : (name, parameter) ∈ flagNames →
      progress.settle = .ok settled → settled.accept parameter none = .ok after →
      Takes progress ("--" ++ name) after
  | value {parameter argument} : ValueLike argument → progress.pending = some ⟨parameter, none⟩ →
      Takes progress argument { progress with pending := some ⟨parameter, some argument⟩ }

variable {progress settled after : Progress} {parameter : Parameter} {name argument : String}
  {value : Option String}

lemma has_eq_true_iff : progress.has parameter = true ↔ parameter ∈ progress.given.map Prod.fst := by
  rw [has, value?, List.lookup_isSome_iff, List.mem_map]
  exact exists_congr fun _ => and_congr_right fun _ => by rw [beq_iff_eq, eq_comm]

/-- **A parameter is taken** if it has the value which it needs, for the first time, and can have it. -/
lemma accept_eq_ok_iff : progress.accept parameter value = .ok after ↔
    (parameter.takesValue = true → value.isSome = true) ∧ parameter ∉ progress.given.map Prod.fst ∧
      Allowed parameter (value.getD "") ∧
      after = { progress with given := (parameter, value.getD "") :: progress.given } := by
  rw [← has_eq_true_iff, ← refused?_eq_none_iff, accept]
  split_ifs with hmissing hrepeated
  · simp only [Bool.and_eq_true, Option.isNone_iff_eq_none] at hmissing
    simp [hmissing]
  · simp [hrepeated]
  · have hvalue : parameter.takesValue = true → value.isSome = true := by
      cases value <;> simp_all
    dsimp only
    rcases refused? parameter (value.getD "") with _ | misuse
    · simp only [Except.ok.injEq, hrepeated, Bool.false_eq_true, not_false_eq_true, true_and]
      rw [and_iff_right hvalue, eq_comm]
    · simp only [reduceCtorEq, false_and, and_false]

/-! ### The forms of an argument -/

lemma toList_dashes (name : String) : ("--" ++ name).toList = '-' :: '-' :: name.toList := by
  rw [String.toList_append]
  rfl

lemma toList_joined (name value : String) :
    ("--" ++ name ++ "=" ++ value).toList = '-' :: '-' :: (name.toList ++ '=' :: value.toList) := by
  rw [String.toList_append, String.toList_append, toList_dashes, List.append_assoc]
  rfl

/-- An argument is two dashes, a name with or without a value, letters behind a dash, or like a value. -/
lemma argument_cases (argument : String) :
    argument = "--" ∨
    (∃ name, '=' ∉ name.toList ∧ name ≠ "" ∧ argument = "--" ++ name) ∨
    (∃ name value, '=' ∉ name.toList ∧ argument = "--" ++ name ++ "=" ++ value) ∨
    (∃ letter rest, letter ≠ '-' ∧ argument.toList = '-' :: letter :: rest) ∨ ValueLike argument := by
  rcases hargument : argument.toList with _ | ⟨first, _ | ⟨letter, rest⟩⟩
  · exact .inr (.inr (.inr (.inr (by simp [ValueLike, hargument]))))
  · exact .inr (.inr (.inr (.inr (by simp [ValueLike, hargument]))))
  · by_cases hfirst : first = '-'
    · subst hfirst
      by_cases hletter : letter = '-'
      · subst hletter
        have hname : '=' ∉ rest.takeWhile (· != '=') := fun h => by simpa using List.mem_takeWhile_imp h
        have hsplit := List.takeWhile_append_dropWhile (p := (· != '=')) (l := rest)
        rcases hvalue : rest.dropWhile (· != '=') with _ | ⟨sign, value⟩
        · rw [hvalue, List.append_nil] at hsplit
          rw [hsplit] at hname
          rcases rest with _ | ⟨c, rest⟩
          · exact .inl (String.toList_inj.mp hargument)
          · refine .inr (.inl ⟨String.ofList (c :: rest), by rwa [String.toList_ofList], ?_, ?_⟩)
            · exact fun h => by simpa using congrArg String.toList h
            · rw [← String.toList_inj, hargument, toList_dashes, String.toList_ofList]
        · obtain rfl : sign = '=' := by
            have hsign := List.head_dropWhile_not (· != '=') (hvalue ▸ List.cons_ne_nil _ _ :
              rest.dropWhile (· != '=') ≠ [])
            simp only [hvalue, List.head_cons] at hsign
            simpa using hsign
          refine .inr (.inr (.inl ⟨String.ofList (rest.takeWhile (· != '=')), String.ofList value,
            by rwa [String.toList_ofList], ?_⟩))
          rw [← String.toList_inj, hargument, toList_joined, String.toList_ofList, String.toList_ofList,
            ← hvalue, hsplit]
      · exact .inr (.inr (.inr (.inl ⟨letter, rest, hletter, rfl⟩)))
    · exact .inr (.inr (.inr (.inr (by simp [ValueLike, hargument, hfirst]))))

variable (hopen : progress.closed = false)

include hopen

lemma take_dashes : progress.take "--" = .ok { progress with closed := true } := by
  simp [take, hopen]

/-- A name, with all that stands behind it. -/
lemma take_long (tail : List Char) (hname : '=' ∉ name.toList) (htail : ∀ sign ∈ tail.head?, sign = '=')
    (hne : name.toList ++ tail ≠ []) (hargument : argument.toList = '-' :: '-' :: (name.toList ++ tail)) :
    progress.take argument = progress.takeLong name
      (if tail.isEmpty then none else some (String.ofList (tail.drop 1))) := by
  have htake : (name.toList ++ tail).takeWhile (· != '=') = name.toList := by
    rw [List.takeWhile_append_of_pos (fun c hc => by simpa using ne_of_mem_of_not_mem hc hname)]
    cases tail with
    | nil => simp
    | cons sign value => simp [htail sign rfl]
  simp only [take, hopen, hargument, Bool.false_eq_true, if_false]
  rw [htake, List.drop_left', String.ofList_toList]
  rfl

lemma take_name (hname : '=' ∉ name.toList) (hne : name ≠ "") :
    progress.take ("--" ++ name) = progress.takeLong name none := by
  refine take_long hopen [] hname nofun ?_ (by rw [toList_dashes, List.append_nil])
  simpa using hne

lemma take_joined {value : String} (hname : '=' ∉ name.toList) :
    progress.take ("--" ++ name ++ "=" ++ value) = progress.takeLong name (some value) := by
  rw [take_long hopen ('=' :: value.toList) hname (by simp) (by simp) (toList_joined name value)]
  simp

/-- Letters behind a dash are not part of a request. -/
lemma take_letters {letter : Char} {rest : List Char} (hletter : letter ≠ '-')
    (hargument : argument.toList = '-' :: letter :: rest) : progress.take argument ≠ .ok after := by
  have hshort : progress.take argument = progress.takeShort letter := by
    simp only [take, hopen, hargument, Bool.false_eq_true, if_false]
    split <;> simp_all
  rw [hshort, takeShort]
  rcases hparameter : Parameter.ofShort? letter with _ | parameter
  · exact nofun
  · have hletter := List.find?_some hparameter
    rcases hsettle : progress.settle with halt | settled
    · simp [takeFlag, hsettle, bind, Except.bind]
    · cases parameter <;> simp [Parameter.short?] at hletter <;>
        simp [takeFlag, hsettle, bind, Except.bind, throw, throwThe, MonadExceptOf.throw]

lemma take_valueLike (h : ValueLike argument) : progress.take argument = progress.takeValue argument := by
  simp only [take, hopen, Bool.false_eq_true, if_false]
  split
  · exact absurd ‹_› (h _ _)
  · exact absurd ‹_› (h _ _)
  · exact absurd ‹_› (h _ _)
  · rfl

omit hopen

lemma takeFlag_eq_ok_iff {brief : Bool} : progress.takeFlag parameter brief = .ok after ↔
    parameter ≠ .help ∧ parameter ≠ .version ∧
      ∃ settled, progress.settle = .ok settled ∧ settled.accept parameter none = .ok after := by
  rcases hsettle : progress.settle with halt | settled
  · simp [takeFlag, hsettle, bind, Except.bind]
  · rw [takeFlag, hsettle]
    cases parameter <;>
      simp [bind, Except.bind, throw, throwThe, MonadExceptOf.throw, mapError_eq_ok_iff]

lemma takeLong_of_flag (h : (name, parameter) ∈ flagNames) :
    progress.takeLong name none = progress.takeFlag parameter false := by
  obtain ⟨hlong, hflag, -, -⟩ := mem_flagNames_iff.mp h
  simp only [takeLong, hlong, hflag]

lemma takeLong_name_eq_ok_iff (h : (name, parameter) ∈ valueNames) :
    progress.takeLong name none = .ok after ↔
      ∃ settled, progress.settle = .ok settled ∧ after = { settled with pending := some ⟨parameter, none⟩ } := by
  obtain ⟨hlong, hvalue⟩ := mem_valueNames_iff.mp h
  simp only [takeLong, hlong, hvalue]
  rcases progress.settle with halt | settled
  · simp [bind, Except.bind]
  · simp [bind, Except.bind, pure, Except.pure, eq_comm]

lemma takeLong_joined_eq_ok_iff {value : String} (h : (name, parameter) ∈ valueNames) :
    progress.takeLong name (some value) = .ok after ↔
      ∃ settled, progress.settle = .ok settled ∧ settled.accept parameter (some value) = .ok after := by
  obtain ⟨hlong, hvalue⟩ := mem_valueNames_iff.mp h
  simp only [takeLong, hlong, hvalue]
  rcases progress.settle with halt | settled
  · simp [bind, Except.bind]
  · simp [bind, Except.bind, mapError_eq_ok_iff]

/-- A name behind two dashes is one with a value, or one which stands alone. -/
lemma mem_names_of_takeLong (h : progress.takeLong name value = .ok after) :
    ∃ parameter, (name, parameter) ∈ valueNames ∨ (name, parameter) ∈ flagNames ∧ value = none := by
  rw [takeLong] at h
  rcases hlong : Parameter.ofLong? name with _ | parameter
  · simp [hlong] at h
  · simp only [hlong] at h
    rcases hvalue : parameter.takesValue with _ | _
    · rcases value with _ | value
      · simp only [hvalue, takeFlag_eq_ok_iff] at h
        exact ⟨parameter, .inr ⟨mem_flagNames_iff.mpr ⟨hlong, hvalue, h.1, h.2.1⟩, rfl⟩⟩
      · simp [hvalue] at h
    · exact ⟨parameter, .inl (mem_valueNames_iff.mpr ⟨hlong, hvalue⟩)⟩

/-- **One more argument**, as long as two dashes have not ended the command line. -/
lemma take_eq_ok_iff (hopen : progress.closed = false) :
    progress.take argument = .ok after ↔ Takes progress argument after := by
  constructor
  · intro h
    obtain rfl | ⟨name, hname, hne, rfl⟩ | ⟨name, value, hname, rfl⟩ | ⟨letter, rest, hletter, hargument⟩ |
      hvalue := argument_cases argument
    · obtain rfl := Except.ok.inj ((take_dashes hopen).symm.trans h)
      exact .ended
    · rw [take_name hopen hname hne] at h
      obtain ⟨parameter, hmem | ⟨hmem, -⟩⟩ := mem_names_of_takeLong h
      · obtain ⟨settled, hsettle, rfl⟩ := (takeLong_name_eq_ok_iff hmem).mp h
        exact .named hmem hsettle
      · rw [takeLong_of_flag hmem, takeFlag_eq_ok_iff] at h
        obtain ⟨-, -, settled, hsettle, haccept⟩ := h
        exact .alone hmem hsettle haccept
    · rw [take_joined hopen hname] at h
      obtain ⟨parameter, hmem | ⟨-, hnone⟩⟩ := mem_names_of_takeLong h
      · obtain ⟨settled, hsettle, haccept⟩ := (takeLong_joined_eq_ok_iff hmem).mp h
        exact .joined hmem hsettle haccept
      · cases hnone
    · exact absurd h (take_letters hopen hletter hargument)
    · rw [take_valueLike hopen hvalue, takeValue] at h
      split at h
      · obtain rfl := Except.ok.inj h
        exact .value hvalue ‹_›
      · cases h
  · intro h
    cases h with
    | ended => exact take_dashes hopen
    | named hmem hsettle =>
        obtain ⟨hname, hne⟩ := name_of_mem (List.mem_append_left _ hmem)
        rw [take_name hopen hname hne]
        exact (takeLong_name_eq_ok_iff hmem).mpr ⟨_, hsettle, rfl⟩
    | joined hmem hsettle haccept =>
        rw [take_joined hopen (name_of_mem (List.mem_append_left _ hmem)).1]
        exact (takeLong_joined_eq_ok_iff hmem).mpr ⟨_, hsettle, haccept⟩
    | alone hmem hsettle haccept =>
        obtain ⟨hname, hne⟩ := name_of_mem (List.mem_append_right _ hmem)
        obtain ⟨-, -, hhelp, hversion⟩ := mem_flagNames_iff.mp hmem
        rw [take_name hopen hname hne, takeLong_of_flag hmem]
        exact takeFlag_eq_ok_iff.mpr ⟨hhelp, hversion, _, hsettle, haccept⟩
    | value hvalue hpending => rw [take_valueLike hopen hvalue, takeValue, hpending]

/-! ## Whole command lines -/

/-- What is given in the end, if nothing ends the reading before. -/
def Ends (progress : Progress) (arguments : List String) (given : List (Parameter × String)) : Prop :=
  ∃ read settled, arguments.foldlM take progress = .ok read ∧ read.settle = .ok settled ∧
    settled.given = given

variable {given whole : List (Parameter × String)} {arguments : List String} {closed : Bool} {text : String}

lemma ends_nil_iff :
    progress.Ends [] whole ↔ ∃ settled, progress.settle = .ok settled ∧ settled.given = whole := by
  simp only [Ends, List.foldlM_nil, pure, Except.pure, Except.ok.injEq, exists_and_left, exists_eq_left']

lemma ends_cons_iff (hopen : progress.closed = false) : progress.Ends (argument :: arguments) whole ↔
    ∃ next, progress.Takes argument next ∧ next.Ends arguments whole := by
  simp only [← take_eq_ok_iff hopen, Ends, List.foldlM_cons]
  rcases progress.take argument with halt | next
  · simp [bind, Except.bind]
  · simp [bind, Except.bind]

/-- Behind two dashes nothing is expected. -/
lemma ends_closed_iff (hclosed : progress.closed = true) : progress.Ends arguments whole ↔
    arguments = [] ∧ ∃ settled, progress.settle = .ok settled ∧ settled.given = whole := by
  cases arguments with
  | nil => simp only [ends_nil_iff, true_and]
  | cons argument rest => simp [Ends, take, hclosed, bind, Except.bind]

lemma settle_settled : settle ⟨given, none, closed⟩ = .ok settled ↔ settled = ⟨given, none, closed⟩ := by
  rw [settle, Except.ok.injEq, eq_comm]

lemma settle_pending : settle ⟨given, some ⟨parameter, some text⟩, closed⟩ = .ok settled ↔
    parameter ∉ given.map Prod.fst ∧ Allowed parameter text ∧
      settled = ⟨(parameter, text) :: given, none, closed⟩ := by
  simp only [settle, mapError_eq_ok_iff, accept_eq_ok_iff, Option.isSome_some, implies_true, true_and,
    Option.getD_some]

/-- A parameter which waits for its value is not complete. -/
lemma settle_awaiting (hvalue : parameter.takesValue = true) :
    settle ⟨given, some ⟨parameter, none⟩, closed⟩ ≠ .ok settled := by
  simp [settle, mapError_eq_ok_iff, accept_eq_ok_iff, hvalue]

/-- **A parameter which has its value may be taken at once.** -/
lemma ends_pending_iff : Ends ⟨given, some ⟨parameter, some text⟩, false⟩ arguments whole ↔
    parameter ∉ given.map Prod.fst ∧ Allowed parameter text ∧
      Ends ⟨(parameter, text) :: given, none, false⟩ arguments whole := by
  cases arguments with
  | nil =>
      simp only [ends_nil_iff, settle_pending, settle_settled, exists_eq_left, and_assoc, exists_and_left]
  | cons argument rest =>
      simp only [ends_cons_iff]
      constructor
      · rintro ⟨next, htakes, hends⟩
        cases htakes with
        | ended =>
            rw [ends_closed_iff rfl] at hends
            obtain ⟨rfl, settled, hsettle, rfl⟩ := hends
            obtain ⟨hnew, hallowed, rfl⟩ := settle_pending.mp hsettle
            exact ⟨hnew, hallowed, _, .ended, (ends_closed_iff rfl).mpr ⟨rfl, _, rfl, rfl⟩⟩
        | named hmem hsettle =>
            obtain ⟨hnew, hallowed, rfl⟩ := settle_pending.mp hsettle
            exact ⟨hnew, hallowed, _, .named hmem rfl, hends⟩
        | joined hmem hsettle haccept =>
            obtain ⟨hnew, hallowed, rfl⟩ := settle_pending.mp hsettle
            exact ⟨hnew, hallowed, _, .joined hmem rfl haccept, hends⟩
        | alone hmem hsettle haccept =>
            obtain ⟨hnew, hallowed, rfl⟩ := settle_pending.mp hsettle
            exact ⟨hnew, hallowed, _, .alone hmem rfl haccept, hends⟩
        | value _ hpending => cases hpending
      · rintro ⟨hnew, hallowed, next, htakes, hends⟩
        have hsettled : settle ⟨given, some ⟨parameter, some text⟩, false⟩ =
            .ok ⟨(parameter, text) :: given, none, false⟩ := settle_pending.mpr ⟨hnew, hallowed, rfl⟩
        cases htakes with
        | ended =>
            rw [ends_closed_iff rfl] at hends
            obtain ⟨rfl, settled, hsettle, rfl⟩ := hends
            obtain rfl := settle_settled.mp hsettle
            exact ⟨_, .ended, (ends_closed_iff rfl).mpr
              ⟨rfl, _, settle_pending.mpr ⟨hnew, hallowed, rfl⟩, rfl⟩⟩
        | named hmem hsettle =>
            obtain rfl := settle_settled.mp hsettle
            exact ⟨_, .named hmem hsettled, hends⟩
        | joined hmem hsettle haccept =>
            obtain rfl := settle_settled.mp hsettle
            exact ⟨_, .joined hmem hsettled haccept, hends⟩
        | alone hmem hsettle haccept =>
            obtain rfl := settle_settled.mp hsettle
            exact ⟨_, .alone hmem hsettled haccept, hends⟩
        | value _ hpending => cases hpending

/-- **A parameter which waits for its value takes the next argument.** -/
lemma ends_awaiting_iff (hvalue : parameter.takesValue = true) :
    Ends ⟨given, some ⟨parameter, none⟩, false⟩ arguments whole ↔
      ∃ text rest, arguments = text :: rest ∧ ValueLike text ∧
        Ends ⟨given, some ⟨parameter, some text⟩, false⟩ rest whole := by
  cases arguments with
  | nil => simp [ends_nil_iff, settle_awaiting hvalue]
  | cons argument rest =>
      rw [ends_cons_iff rfl]
      constructor
      · rintro ⟨next, htakes, hends⟩
        cases htakes with
        | ended =>
            obtain ⟨-, settled, hsettle, -⟩ := (ends_closed_iff rfl).mp hends
            exact absurd hsettle (settle_awaiting hvalue)
        | named _ hsettle => exact absurd hsettle (settle_awaiting hvalue)
        | joined _ hsettle => exact absurd hsettle (settle_awaiting hvalue)
        | alone _ hsettle => exact absurd hsettle (settle_awaiting hvalue)
        | value hlike hpending =>
            cases hpending
            exact ⟨_, _, rfl, hlike, hends⟩
      · rintro ⟨text, rest, heq, hlike, hends⟩
        cases heq
        exact ⟨_, .value hlike rfl, hends⟩

/-- Whether more can be given behind what is given: new parameters, each once, with values which they can
have. -/
def Admits (before : List (Parameter × String)) : List (Parameter × String) → Prop
  | [] => True
  | (parameter, text) :: rest =>
    parameter ∉ before.map Prod.fst ∧ Allowed parameter text ∧ Admits ((parameter, text) :: before) rest

lemma ends_of_written (h : Written given arguments) {before : List (Parameter × String)}
    (hadmits : Admits before given) :
    Ends ⟨before, none, false⟩ arguments (given.reverse ++ before) := by
  induction h generalizing before with
  | nil => exact ends_nil_iff.mpr ⟨_, rfl, rfl⟩
  | ended => exact (ends_cons_iff rfl).mpr ⟨_, .ended, (ends_closed_iff rfl).mpr ⟨rfl, _, rfl, rfl⟩⟩
  | apart hmem hlike _ ih =>
      obtain ⟨hnew, hallowed, hrest⟩ := hadmits
      rw [List.reverse_cons, List.append_assoc]
      refine (ends_cons_iff rfl).mpr ⟨_, .named hmem rfl, ?_⟩
      refine (ends_awaiting_iff (mem_valueNames_iff.mp hmem).2).mpr ⟨_, _, rfl, hlike, ?_⟩
      exact ends_pending_iff.mpr ⟨hnew, hallowed, ih hrest⟩
  | joined hmem _ ih =>
      obtain ⟨hnew, hallowed, hrest⟩ := hadmits
      rw [List.reverse_cons, List.append_assoc]
      refine (ends_cons_iff rfl).mpr ⟨_, .joined hmem rfl (accept_eq_ok_iff.mpr ?_), ih hrest⟩
      exact ⟨fun _ => rfl, hnew, hallowed, rfl⟩
  | alone hmem _ ih =>
      obtain ⟨hnew, hallowed, hrest⟩ := hadmits
      have hflag := (mem_flagNames_iff.mp hmem).2.1
      rw [List.reverse_cons, List.append_assoc]
      refine (ends_cons_iff rfl).mpr ⟨_, .alone hmem rfl (accept_eq_ok_iff.mpr ?_), ih hrest⟩
      exact ⟨fun hvalue => absurd (hflag.symm.trans hvalue) (by decide), hnew, hallowed, rfl⟩

/-- Where a command line ends, by induction on its arguments: what follows may be read with nothing which
waits, or with a parameter which waits for its value. -/
lemma written_of_ends (arguments : List String) : ∀ before whole : List (Parameter × String),
    (Ends ⟨before, none, false⟩ arguments whole →
      ∃ given, Written given arguments ∧ Admits before given ∧ whole = given.reverse ++ before) ∧
    ∀ name parameter, (name, parameter) ∈ valueNames →
      Ends ⟨before, some ⟨parameter, none⟩, false⟩ arguments whole →
      ∃ given, Written given (("--" ++ name) :: arguments) ∧ Admits before given ∧
        whole = given.reverse ++ before := by
  induction arguments with
  | nil =>
      intro before whole
      constructor
      · intro h
        obtain ⟨settled, hsettle, rfl⟩ := ends_nil_iff.mp h
        obtain rfl := settle_settled.mp hsettle
        exact ⟨[], .nil, trivial, rfl⟩
      · intro name parameter hmem h
        obtain ⟨_, _, hnil, -⟩ := (ends_awaiting_iff (mem_valueNames_iff.mp hmem).2).mp h
        cases hnil
  | cons argument rest ih =>
      intro before whole
      constructor
      · intro h
        obtain ⟨next, htakes, hends⟩ := (ends_cons_iff rfl).mp h
        cases htakes with
        | ended =>
            obtain ⟨rfl, settled, hsettle, rfl⟩ := (ends_closed_iff rfl).mp hends
            obtain rfl := settle_settled.mp hsettle
            exact ⟨[], .ended, trivial, rfl⟩
        | named hmem hsettle =>
            obtain rfl := settle_settled.mp hsettle
            exact (ih before whole).2 _ _ hmem hends
        | joined hmem hsettle haccept =>
            obtain rfl := settle_settled.mp hsettle
            obtain ⟨-, hnew, hallowed, rfl⟩ := accept_eq_ok_iff.mp haccept
            obtain ⟨given, hwritten, hadmits, rfl⟩ := (ih _ _).1 hends
            exact ⟨_ :: given, .joined hmem hwritten, ⟨hnew, hallowed, hadmits⟩, by simp⟩
        | alone hmem hsettle haccept =>
            obtain rfl := settle_settled.mp hsettle
            obtain ⟨-, hnew, hallowed, rfl⟩ := accept_eq_ok_iff.mp haccept
            obtain ⟨given, hwritten, hadmits, rfl⟩ := (ih _ _).1 hends
            exact ⟨_ :: given, .alone hmem hwritten, ⟨hnew, hallowed, hadmits⟩, by simp⟩
        | value _ hpending => cases hpending
      · intro name parameter hmem h
        obtain ⟨text, rest', heq, hlike, hends⟩ :=
          (ends_awaiting_iff (mem_valueNames_iff.mp hmem).2).mp h
        cases heq
        obtain ⟨hnew, hallowed, hends⟩ := ends_pending_iff.mp hends
        obtain ⟨given, hwritten, hadmits, rfl⟩ := (ih _ _).1 hends
        exact ⟨_ :: given, .apart hmem hlike hwritten, ⟨hnew, hallowed, hadmits⟩, by simp⟩

/-- In the beginning, all that counts is that no parameter is given twice. -/
lemma admits_iff {before : List (Parameter × String)} : Admits before given ↔
    (given.map Prod.fst).Nodup ∧ ∀ entry ∈ given, entry.1 ∉ before.map Prod.fst ∧ Allowed entry.1 entry.2 := by
  induction given generalizing before with
  | nil => simp [Admits]
  | cons entry rest ih =>
      obtain ⟨parameter, text⟩ := entry
      simp only [Admits, ih, List.map_cons, List.nodup_cons]
      rw [List.forall_mem_cons]
      simp only [List.mem_cons, not_or]
      constructor
      · rintro ⟨hnew, hallowed, hnodup, hrest⟩
        refine ⟨⟨?_, hnodup⟩, ⟨hnew, hallowed⟩, fun entry he => ⟨(hrest entry he).1.2, (hrest entry he).2⟩⟩
        intro hmem
        obtain ⟨entry, he, hparameter⟩ := List.mem_map.mp hmem
        exact (hrest entry he).1.1 hparameter
      · rintro ⟨⟨hother, hnodup⟩, ⟨hnew, hallowed⟩, hrest⟩
        refine ⟨hnew, hallowed, hnodup, fun entry he => ⟨⟨?_, (hrest entry he).1⟩, (hrest entry he).2⟩⟩
        rintro rfl
        exact hother (List.mem_map_of_mem he)

/-- **Where a command line ends**: with all that is given in it. -/
theorem ends_iff : start.Ends arguments whole ↔
    ∃ given, Written given arguments ∧ (given.map Prod.fst).Nodup ∧
      (∀ entry ∈ given, Allowed entry.1 entry.2) ∧ whole = given.reverse := by
  have hadmits : ∀ given, Admits [] given ↔
      (given.map Prod.fst).Nodup ∧ ∀ entry ∈ given, Allowed entry.1 entry.2 := fun given => by
    simp only [admits_iff, List.map_nil, List.not_mem_nil, not_false_eq_true, true_and]
  constructor
  · intro h
    obtain ⟨given, hwritten, hgiven, rfl⟩ := (written_of_ends arguments [] whole).1 h
    obtain ⟨hnodup, hallowed⟩ := (hadmits given).mp hgiven
    exact ⟨given, hwritten, hnodup, hallowed, List.append_nil _⟩
  · rintro ⟨given, hwritten, hnodup, hallowed, rfl⟩
    have hends := ends_of_written hwritten ((hadmits given).mpr ⟨hnodup, hallowed⟩)
    rwa [List.append_nil] at hends

end Progress

end EnumTables.Command
