import EnumTables.Companion.Basic
import EnumTables.Companion.Template

/-!
# The code of a companion

* `literalTokens` — a value as a literal with the suffix of its type.
* `Companion.guardCode`, `Companion.listCode`, … — one item each.
* `Companion.code` — all of it.
-/

namespace EnumTables.Companion

open EnumTables.Number EnumTables.Source EnumTables.Token

/-! ## Literals -/

/-- **A value as a literal** with the suffix of its type, behind a minus if it is negative. -/
def literalTokens (type : Primitive) (value : Int) : List Token :=
  let digits := Token.literal (toString value.natAbs ++ type.label) .nowhere
  if value < 0 then [.mark '-' false .nowhere, digits] else [digits]

/-! ## Items -/

/-- What is common to all functions of the companion: documentation, attributes and visibility. -/
def header (companion : Companion) (documentation : String) (inlined : Bool) : List Token :=
  template "# [doc = $]" [[.literal ("r\" " ++ documentation ++ "\"") .nowhere]] ++
    (if inlined then template "# [inline (always)]" [] else []) ++
    visibilityTokens companion.visibility

def valueTokens (companion : Companion) (value : Int) : List Token :=
  literalTokens companion.repr value

/-- The type itself. -/
def typeTokens (companion : Companion) : List Token := [identToken companion.type]

/-- The primitive which the type wraps. -/
def reprTokens (companion : Companion) : List Token := [identToken companion.repr.label]

/-- A constant block which does not compile once a constant has changed its value. -/
def guardCode (companion : Companion) : List Token :=
  template "const _ : () = \x7b $ \x7d ;" [companion.guard.flatMap fun assertion =>
    template ":: core :: assert ! ($ . 0 == $ , $) ;"
      [pathTokens assertion.subject, companion.valueTokens assertion.value,
        [stringToken assertion.message]]]

/-- The accessor of all constants. -/
def listCode (companion : Companion) : List Token :=
  companion.header "Returns all constants in declaration order." true ++
    template "const fn list () -> & 'static [Self] \x7b & [$] \x7d"
      [commas (companion.list.map pathTokens)]

/-- The accessor of all names. -/
def namesCode (companion : Companion) : List Token :=
  companion.header "Returns the names of all constants in declaration order." true ++
    template "const fn list_names () -> & 'static [& 'static str] \x7b & [$] \x7d"
      [commas (companion.names.map fun name => [stringToken name])]

/-- The accessor of all values. -/
def valuesCode (companion : Companion) : List Token :=
  companion.header "Returns the values of all constants in declaration order." true ++
    template "const fn list_values () -> & 'static [$] \x7b & [$] \x7d"
      [companion.reprTokens, commas (companion.values.map companion.valueTokens)]

/-- An arm of a table which is looked something up in. -/
def armCode (pattern result : List Token) : List Token :=
  template "$ => :: core :: option :: Option :: Some ($) ," [pattern, result]

/-- The table from names to constants. -/
def fromNameCode (companion : Companion) : List Token :=
  companion.header "Returns the constant called `name`." false ++
    template
      "fn from_name (name : & str) -> :: core :: option :: Option < Self > \x7b match name \x7b $ _ => :: core :: option :: Option :: None \x7d \x7d"
      [companion.byName.flatMap fun (name, path) => armCode [stringToken name] (pathTokens path)]

/-- The table from values to names. -/
def nameCode (companion : Companion) : List Token :=
  companion.header "Returns the name of the first constant with this value." false ++
    template
      "fn name (& self) -> :: core :: option :: Option < & 'static str > \x7b match self . 0 \x7b $ _ => :: core :: option :: Option :: None \x7d \x7d"
      [companion.byValue.flatMap fun (value, name) =>
        armCode (companion.valueTokens value) [stringToken name]]

/-- The comparison with one or more values. -/
def isCode (companion : Companion) : List Token :=
  companion.header "Returns true if the value equals `target` or any of `or`." false ++
    template
      "fn is (& self , target : & Self , or : & [Self]) -> bool \x7b self . 0 == target . 0 || or . iter () . any (| other | self . 0 == other . 0) \x7d"
      []

/-- The name under which values are reported and registered. -/
def qualifiedName (companion : Companion) : List Token :=
  template ":: core :: concat ! (:: core :: module_path ! () , \"::\" , :: core :: stringify ! ($))"
    [companion.typeTokens]

/-- The check of a value, with a list of the values which belong to a constant. -/
def validateCode (companion : Companion) (runtime : List Token) : List Token :=
  companion.header "Returns an error if the value does not belong to any constant." false ++
    template
      "fn validate (& self) -> :: core :: result :: Result < () , $ :: Error > \x7b if self . is_valid () \x7b :: core :: result :: Result :: Ok (()) \x7d else \x7b :: core :: result :: Result :: Err ($ :: Error :: invalid_value ($ , & [$] , self . 0)) \x7d \x7d"
      [runtime, runtime, companion.qualifiedName,
        commas (companion.known.map companion.valueTokens)]

/-- The same check, as a question. -/
def isValidCode (companion : Companion) : List Token :=
  companion.header "Returns true if the value belongs to any constant." true ++
    template "const fn is_valid (& self) -> bool \x7b :: core :: matches ! (self . 0 , $) \x7d"
      [[Token.mark '|' false .nowhere].intercalate (companion.known.map companion.valueTokens)]

/-- The accessor of the enumeration which is registered at run time. -/
def enumerationCode (companion : Companion) (runtime : List Token) : List Token :=
  let repr := companion.reprTokens
  companion.header "Returns the runtime enumeration of all distinct values." false ++
    template
      "fn enumeration () -> :: core :: result :: Result < & 'static $ :: Enum < & 'static str , $ > , $ :: Error > \x7b static REGISTRY : $ :: Registry < & 'static str , $ > = $ :: Registry :: new () ; REGISTRY . get_or_register ($ , [$] , []) \x7d"
      [runtime, repr, runtime, runtime, repr, runtime, companion.qualifiedName,
        commas (companion.entries.map fun (name, value) =>
          [.group .paren (commas [[stringToken name], companion.valueTokens value]) .nowhere])]

/-! ## All of it -/

/-- **The code of a companion.**  `runtime` is the path of the crate whose errors and enumerations are
used; `registry` asks for the accessor of the enumeration. -/
def code (companion : Companion) (runtime : Path) (registry : Bool) : List Token :=
  let runtime := pathTokens runtime
  companion.guardCode ++
    template "# [allow (dead_code)] impl $ \x7b $ \x7d"
      [companion.typeTokens,
        companion.listCode ++ companion.namesCode ++ companion.valuesCode ++ companion.fromNameCode ++
          companion.nameCode ++ companion.isCode ++ companion.validateCode runtime ++
          companion.isValidCode ++ if registry then companion.enumerationCode runtime else []]

end EnumTables.Companion
