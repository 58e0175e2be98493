import EnumTables.Group.Collect
import EnumTables.Proofs.Meaning

/-!
# Places do not matter

Where a constant is written has no part in what it means.  `placeless` takes all places out of the parts of
a source file, together with what only a printer looks at; parts which are the same without places have the
same constants with the same values.

* `Expr.placeless`, `Item.placeless` and their like — what is left of a part without places.
* `Scope.Alike` — scopes in which each key stands for the same, places aside.
* `KeyMeans.alike` — a constant means the same in such scopes.
-/

namespace EnumTables.Source

open EnumTables.Token

/-! ## Parts of files without places -/

def Identifier.placeless (ident : Identifier) : Identifier := ⟨ident.text, .nowhere⟩

/-- What is written in the arguments of a path is only printed again. -/
def PathArguments.placeless : PathArguments → PathArguments
  | none => none
  | angle count _ => angle count []
  | paren _ => paren []

def PathSegment.placeless (segment : PathSegment) : PathSegment :=
  ⟨segment.name, segment.arguments.placeless⟩

def Path.placeless (path : Path) : Path :=
  ⟨path.rooted, path.segments.map PathSegment.placeless⟩

def Ty.placeless : Ty → Ty
  | path whole => path whole.placeless
  | paren inner => paren inner.placeless
  | bound => bound
  | other => other

def Expr.placeless : Expr → Expr
  | integer number _ _ => integer number .nowhere .nowhere
  | neg operand _ => neg operand.placeless .nowhere
  | binary op left right _ => binary op left.placeless right.placeless .nowhere
  | cast operand target _ => cast operand.placeless target.placeless .nowhere
  | path whole _ => path whole.placeless .nowhere
  | field base index _ => field base.placeless index .nowhere
  | call function argument _ => call function.placeless argument.placeless .nowhere
  | paren inner _ => paren inner.placeless .nowhere
  | block _ => block .nowhere
  | range _ => range .nowhere
  | other _ => other .nowhere

def Visibility.placeless : Visibility → Visibility
  | restricted within path => restricted within path.placeless
  | visibility => visibility

def Fields.placeless : Fields → Fields
  | named => named
  | tuple types => tuple (types.map Ty.placeless)
  | unit => unit

def TypeItem.placeless (item : TypeItem) : TypeItem where
  visibility := item.visibility.placeless
  name := item.name.placeless
  generics := item.generics.map fun _ => .nowhere
  fields := item.fields.placeless
  span := .nowhere

def ConstItem.placeless (item : ConstItem) : ConstItem :=
  ⟨item.name.placeless, item.type.placeless, item.value.placeless⟩

def ImplItem.placeless (item : ImplItem) : ImplItem :=
  ⟨item.ofTrait, item.subject.placeless, item.constants.map ConstItem.placeless⟩

def Item.placeless : Item → Item
  | type item => type item.placeless
  | const item => const item.placeless
  | impl item => impl item.placeless
  | other => other

/-! ## What is left of paths and types -/

@[simp] lemma PathArguments.isEmpty_placeless (arguments : PathArguments) :
    arguments.placeless.isEmpty = arguments.isEmpty := by
  cases arguments <;> rfl

@[simp] lemma PathArguments.isNone_placeless (arguments : PathArguments) :
    arguments.placeless.isNone = arguments.isNone := by
  cases arguments <;> rfl

@[simp] lemma Path.names_placeless (path : Path) : path.placeless.names = path.names := by
  simp [placeless, names, PathSegment.placeless]

@[simp] lemma Path.ident?_placeless (path : Path) : path.placeless.ident? = path.ident? := by
  obtain ⟨rooted, segments⟩ := path
  rcases rooted with _ | _
  · rcases segments with _ | ⟨segment, _ | ⟨second, rest⟩⟩
    · rfl
    · simp [placeless, ident?, PathSegment.placeless]
    · rfl
  · rfl

@[simp] lemma Ty.primitive?_placeless (type : Ty) : type.placeless.primitive? = type.primitive? := by
  induction type with
  | path whole => simp [placeless, primitive?]
  | paren inner ih => simpa [placeless, primitive?] using ih
  | bound | other => rfl

lemma Ty.primitive?_congr {type type' : Ty} (h : type.placeless = type'.placeless) :
    type.primitive? = type'.primitive? := by
  rw [← primitive?_placeless, h, primitive?_placeless]

end EnumTables.Source

namespace EnumTables.Constants

open EnumTables.Number EnumTables.Source EnumTables.Token

lemma keyOf?_congr {path path' : Path} (h : path.placeless = path'.placeless) (type : String) :
    keyOf? type path = keyOf? type path' := by
  rw [keyOf?, keyOf?, ← path.names_placeless, h, path'.names_placeless]

lemma boundOf?_congr {path path' : Path} (h : path.placeless = path'.placeless) :
    boundOf? path = boundOf? path' := by
  rw [boundOf?, boundOf?, ← path.names_placeless, h, path'.names_placeless]

lemma isConstructor_placeless (type : String) (e : Expr) :
    isConstructor type e.placeless = isConstructor type e := by
  cases e with
  | path path span =>
      have hlast : path.placeless.segments.getLast?.any (·.name == type) =
          path.segments.getLast?.any (·.name == type) := by
        simp only [Path.placeless, List.getLast?_map, Option.any_map, PathSegment.placeless]
      simp only [Expr.placeless, isConstructor, Path.ident?_placeless, hlast]
  | _ => rfl

lemma isConstructor_congr {e e' : Expr} (h : e.placeless = e'.placeless) (type : String) :
    isConstructor type e = isConstructor type e' := by
  rw [← isConstructor_placeless, h, isConstructor_placeless]

lemma isLiteral_congr {e e' : Expr} (h : e.placeless = e'.placeless) : isLiteral e = isLiteral e' := by
  have hplaceless : ∀ e : Expr, isLiteral e.placeless = isLiteral e := by
    intro e
    cases e <;> rfl
  rw [← hplaceless, h, hplaceless]

/-! ## Meanings -/

def Candidate.placeless (candidate : Candidate) : Candidate :=
  { candidate with value := candidate.value.placeless }

/-- **Scopes are alike** if each key stands for the same constant in them, places aside. -/
structure Scope.Alike (scope scope' : Scope) : Prop where
  type : scope.type = scope'.type
  repr : scope.repr = scope'.repr
  find? : ∀ key, (scope.candidates.find? key).map Candidate.placeless =
    (scope'.candidates.find? key).map Candidate.placeless

variable {scope scope' : Scope}

lemma Scope.Alike.symm (h : scope.Alike scope') : scope'.Alike scope :=
  ⟨h.type.symm, h.repr.symm, fun key => (h.find? key).symm⟩

lemma Scope.Alike.kind? (h : scope.Alike scope') (key : Key) :
    scope.candidates.kind? key = scope'.candidates.kind? key := by
  simpa only [Candidates.kind?, Option.map_map, Function.comp_def, Candidate.placeless] using
    congrArg (Option.map Candidate.kind) (h.find? key)

lemma Scope.Alike.isGroup (h : scope.Alike scope') (key : Key) :
    scope.isGroup key = scope'.isGroup key := by
  rw [Scope.isGroup, Scope.isGroup, h.kind?]

lemma Scope.Alike.isScalar (h : scope.Alike scope') (key : Key) :
    scope.isScalar key = scope'.isScalar key := by
  rw [Scope.isScalar, Scope.isScalar, h.kind?]

lemma Scope.Alike.exists_find? (h : scope.Alike scope') {key : Key} {kind : Kind} {e : Expr}
    (hf : scope.candidates.find? key = some ⟨kind, e⟩) :
    ∃ e', scope'.candidates.find? key = some ⟨kind, e'⟩ ∧ e.placeless = e'.placeless := by
  have hsame := h.find? key
  rw [hf, Option.map_some, eq_comm, Option.map_eq_some_iff] at hsame
  obtain ⟨⟨kind', e'⟩, hf', hp⟩ := hsame
  obtain ⟨rfl, he⟩ := Candidate.mk.inj hp
  exact ⟨e', hf', he.symm⟩

mutual

/-- **A constant means the same in scopes which are alike.** -/
theorem KeyMeans.alike {key : Key} {v : Int} (h : scope.Alike scope') :
    KeyMeans scope key v → KeyMeans scope' key v
  | .group hf hmeans => by
      obtain ⟨e', hf', he⟩ := h.exists_find? hf
      exact .group hf' (hmeans.alike h he)
  | .scalar hf hmeans hv => by
      obtain ⟨e', hf', he⟩ := h.exists_find? hf
      exact .scalar hf' (hmeans.alike h he) hv

theorem GroupMeans.alike {e : Expr} {v : Int} (h : scope.Alike scope') :
    GroupMeans scope e v → ∀ {e'}, e.placeless = e'.placeless → GroupMeans scope' e' v
  | .call hc hmeans hv, e', he => by
      cases e' with
      | call function' argument' span' =>
          simp only [Expr.placeless, Expr.call.injEq, and_true] at he
          refine .call ?_ (hmeans.alike h he.2) (h.repr ▸ hv)
          rw [← isConstructor_congr he.1, ← h.type]
          exact hc
      | _ => simp [Expr.placeless] at he
  | .path hk hg hmeans, e', he => by
      cases e' with
      | path path' span' =>
          simp only [Expr.placeless, Expr.path.injEq, and_true] at he
          refine .path ?_ (h.isGroup _ ▸ hg) (hmeans.alike h)
          rw [← keyOf?_congr he, ← h.type]
          exact hk
      | _ => simp [Expr.placeless] at he
  | .paren hmeans, e', he => by
      cases e' with
      | paren inner' span' =>
          simp only [Expr.placeless, Expr.paren.injEq, and_true] at he
          exact .paren (hmeans.alike h he)
      | _ => simp [Expr.placeless] at he

theorem IntegerMeans.alike {e : Expr} {v : Int} (h : scope.Alike scope') :
    IntegerMeans scope e v → ∀ {e'}, e.placeless = e'.placeless → IntegerMeans scope' e' v
  | .literal hf hs, e', he => by
      cases e' with
      | integer number' place' span' =>
          simp only [Expr.placeless, Expr.integer.injEq, and_true] at he
          exact he ▸ .literal hf hs
      | _ => simp [Expr.placeless] at he
  | .negLiteral hf hs, e', he => by
      cases e' with
      | neg operand' span' =>
          simp only [Expr.placeless, Expr.neg.injEq, and_true] at he
          cases operand' with
          | integer number' place' span' =>
              simp only [Expr.placeless, Expr.integer.injEq, and_true] at he
              exact he ▸ .negLiteral hf hs
          | _ => simp [Expr.placeless] at he
      | _ => simp [Expr.placeless] at he
  | .neg hl hmeans hf, e', he => by
      cases e' with
      | neg operand' span' =>
          simp only [Expr.placeless, Expr.neg.injEq, and_true] at he
          exact .neg ((isLiteral_congr he).symm.trans hl) (hmeans.alike h he) hf
      | _ => simp [Expr.placeless] at he
  | .binary hl hr hy, e', he => by
      cases e' with
      | binary op' left' right' span' =>
          simp only [Expr.placeless, Expr.binary.injEq, and_true] at he
          obtain ⟨rfl, hel, her⟩ := he
          exact .binary (hl.alike h hel) (hr.alike h her) hy
      | _ => simp [Expr.placeless] at he
  | .cast hmeans ht hv hmod, e', he => by
      cases e' with
      | cast operand' target' span' =>
          simp only [Expr.placeless, Expr.cast.injEq, and_true] at he
          exact .cast (hmeans.alike h he.1) ((Ty.primitive?_congr he.2).symm.trans ht) hv hmod
      | _ => simp [Expr.placeless] at he
  | .bound hb, e', he => by
      cases e' with
      | path path' span' =>
          simp only [Expr.placeless, Expr.path.injEq, and_true] at he
          exact .bound ((boundOf?_congr he).symm.trans hb)
      | _ => simp [Expr.placeless] at he
  | .path hb hk hg hmeans, e', he => by
      cases e' with
      | path path' span' =>
          simp only [Expr.placeless, Expr.path.injEq, and_true] at he
          refine .path ?_ ?_ (h.isGroup _ ▸ hg) (hmeans.alike h)
          · exact (boundOf?_congr he).symm.trans hb
          · rw [← keyOf?_congr he, ← h.type]
            exact hk
      | _ => simp [Expr.placeless] at he
  | .field hk hs hmeans, e', he => by
      cases e' with
      | field base' index' span' =>
          simp only [Expr.placeless, Expr.field.injEq, and_true] at he
          obtain ⟨hbase, rfl⟩ := he
          cases base' with
          | path path' span' =>
              simp only [Expr.placeless, Expr.path.injEq, and_true] at hbase
              refine .field ?_ (h.isScalar _ ▸ hs) (hmeans.alike h)
              rw [← keyOf?_congr hbase, ← h.type]
              exact hk
          | _ => simp [Expr.placeless] at hbase
      | _ => simp [Expr.placeless] at he
  | .paren hmeans, e', he => by
      cases e' with
      | paren inner' span' =>
          simp only [Expr.placeless, Expr.paren.injEq, and_true] at he
          exact .paren (hmeans.alike h he)
      | _ => simp [Expr.placeless] at he

end

end EnumTables.Constants
