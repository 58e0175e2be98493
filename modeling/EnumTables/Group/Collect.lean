import EnumTables.Constants.Evaluation
import EnumTables.Group.Basic

/-!
# Finding a group of constants

* `Subject` and `subject?` — the struct which the constants have as their type, and the integer it wraps.
* `Declaration` and `declarations` — the constants of a file which count, in order.
* `candidatesOf` and `membersOf` — what they can be referred to as, and which of them are of the type.
* `ofFile` — the group of a type.
-/

namespace EnumTables.Group

open EnumTables.Constants EnumTables.Number EnumTables.Source EnumTables.Token

/-! ## The type -/

/-- The first struct with a name. -/
def structNamed? (file : SourceFile) (name : String) : Option TypeItem :=
  file.items.findSome? fun
    | .type item => if item.name.text = name then some item else none
    | _ => none

/-- The integer which a struct wraps in its only field. -/
def wrapped? (item : TypeItem) : Option Primitive :=
  match item.fields with
  | .tuple [type] => type.primitive?
  | _ => none

/-- The struct which groups the constants, and the integer it wraps. -/
structure Subject where
  item : TypeItem
  repr : Primitive

/-- **The type of a group.**  It has to exist, to have no parameters and to wrap one integer, in that
order. -/
def subject? (file : SourceFile) (name : String) : Except Failure Subject := do
  match structNamed? file name with
  | none => throw ⟨.noType name, file.span⟩
  | some item =>
    match item.generics with
    | some span => throw ⟨.hasGenerics, span⟩
    | none =>
      match wrapped? item with
      | some repr => return ⟨item, repr⟩
      | none => throw ⟨.noInteger, item.span⟩

/-! ## Its constants -/

/-- Whether a type is the type of a name, in any module and in any number of parentheses. -/
def isType (name : String) : Ty → Bool
  | .path path =>
    path.segments.getLast?.any fun segment => segment.name == name && segment.arguments.isEmpty
  | .paren inner => isType name inner
  | .bound | .other => false

/-- Whether a type is `Self`. -/
def isSelf : Ty → Bool
  | .path path => path.ident? == some "Self"
  | _ => false

/-- A constant which counts: it is of the type, or an integer. -/
structure Declaration where
  ident : Identifier
  associated : Bool
  kind : Kind
  value : Expr
deriving Repr

/-- What a constant is referred to as. -/
def Declaration.key (declaration : Declaration) : Key :=
  if declaration.associated then .associated declaration.ident.text else .free declaration.ident.text

/-- The kind of a constant by its type, if it counts; in a block of the type, it may also be of `Self`. -/
def kindOf? (name : String) (associated : Bool) (type : Ty) : Option Kind :=
  if (associated && isSelf type) || isType name type then some .group
  else type.primitive?.map .scalar

/-- A constant, if it counts. -/
def declaration? (name : String) (associated : Bool) (item : ConstItem) : Option Declaration :=
  (kindOf? name associated item.type).map (⟨item.name, associated, ·, item.value⟩)

/-- The constants of an item which count: a constant, or those in a block of the type. -/
def itemDeclarations (name : String) : Item → List Declaration
  | .const item => (declaration? name false item).toList
  | .impl item =>
    if !item.ofTrait && isType name item.subject then
      item.constants.filterMap (declaration? name true)
    else []
  | .type _ | .other => []

/-- **The constants of a file which count**, in order. -/
def declarations (file : SourceFile) (name : String) : List Declaration :=
  file.items.flatMap (itemDeclarations name)

/-- What the constants can be referred to as. -/
def candidatesOf (declarations : List Declaration) : Candidates :=
  declarations.foldl
    (fun candidates declaration => candidates.insert declaration.key ⟨declaration.kind, declaration.value⟩)
    []

/-- The constants which are of the type. -/
def membersOf (declarations : List Declaration) : List Declaration :=
  declarations.filter (·.kind == .group)

/-! ## The group -/

/-- The constant of a declaration, listed under its identifier. -/
def evaluated (scope : Scope) (declaration : Declaration) : Eval Constant := do
  let value ← scope.evaluate declaration.key declaration.ident.span
  return ⟨declaration.ident, declaration.associated, value, declaration.ident.text⟩

/-- The constants of declarations, each evaluated behind the ones before it. -/
def constantsOf (scope : Scope) (members : List Declaration) : Except Failure (List Constant) := do
  let (constants, _) ← (members.mapM (evaluated scope)).run .empty
  return constants

/-- **The group of constants of a type**, with the values which they evaluate to. -/
def ofFile (file : SourceFile) (name : String) : Except Failure Group := do
  let subject ← subject? file name
  let found := declarations file name
  match membersOf found with
  | [] => throw ⟨.noConstants name, subject.item.name.span⟩
  | members =>
    let constants ← constantsOf ⟨name, subject.repr, candidatesOf found⟩ members
    return ⟨subject.item.visibility, subject.item.name, subject.repr, constants⟩

end EnumTables.Group
