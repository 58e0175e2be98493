import EnumTables.Group.Basic

/-!
# The companion of a group

What is generated for a group: a guard against changed values, and tables to look constants up in.

* `Assertion` and `Companion` — the guard and the tables.
* `reference` — how a constant is referred to beside its type.
* `Companion.ofGroup` — the companion of a group.
-/

namespace EnumTables

open EnumTables.Constants EnumTables.Group EnumTables.Number EnumTables.Source

/-! ## Tables -/

/-- A constant has a value, or else the code which holds the assertion does not compile. -/
structure Assertion where
  subject : Source.Path
  value : Int
  message : String
deriving Repr

/-- **The companion of a group.** -/
structure Companion where
  visibility : Source.Visibility
  type : String
  repr : Number.Primitive
  guard : List Assertion
  list : List Source.Path
  names : List String
  values : List Int
  /-- The constant of a name; the first entry of a name counts. -/
  byName : List (String × Source.Path)
  /-- The name of a value; the first entry of a value counts. -/
  byValue : List (Int × String)
  /-- The values which belong to a constant. -/
  known : List Int
  /-- The names and values which are registered at run time. -/
  entries : List (String × Int)
deriving Repr

namespace Companion

/-- How a constant is referred to beside the type of its group. -/
def reference (type : String) (constant : Constant) : Path :=
  if constant.associated then ⟨false, [⟨type, .none⟩, ⟨constant.ident.text, .none⟩]⟩
  else .ofName constant.ident.text

/-- What is said about a constant whose value is another one. -/
def assertion (type : String) (constant : Constant) : Assertion where
  subject := reference type constant
  value := constant.value
  message := "`" ++ constant.ident.text ++ "` changed its value, re-run enumgen"

/-- **The companion of a group.**  Lists go by all constants in order; what is looked up by value goes by
the first constant of each. -/
def ofGroup (group : Group) : Companion :=
  let type := group.ident.text
  { visibility := group.visibility
    type := type
    repr := group.repr
    guard := group.constants.map (assertion type)
    list := group.constants.map (reference type)
    names := group.constants.map (·.name)
    values := group.constants.map (·.value)
    byName := group.constants.map fun constant => (constant.name, reference type constant)
    byValue := group.unique.map fun constant => (constant.value, constant.name)
    known := group.unique.map (·.value)
    entries := group.unique.map fun constant => (constant.name, constant.value) }

end Companion

end EnumTables
