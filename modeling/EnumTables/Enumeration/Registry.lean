import EnumTables.Enumeration.Register

/-!
# Registries

A registry holds at most one enumeration.  The first registration which succeeds fills it, and nothing
changes it after that.

**The law of a cell which is filled once** is granted here, as its documentation has it: what would fill it
runs only if it is empty; what this comes to is stored if it is a success, while a failure is handed on and
leaves the cell empty; and what was stored stays.  `Registry` is such a cell for one enumeration, with the
law as the definition of its steps.

* `Registry` — what it holds.
* `Visit` — what a step on a registry answers, what it took, and what the registry holds then.
* `Registry.getOrRegister`, `Registry.getOrInit` — the steps which can fill it.
-/

namespace EnumTables.Enumeration

variable {S N : Type}

/-- A place for one enumeration. -/
structure Registry (S N : Type) where
  content : Option (Enumeration S N)
deriving DecidableEq, Repr

/-- A step on a registry: its answer, how much it looked at, and the registry behind it. -/
structure Visit (S N α : Type) where
  answer : α
  taken : Taken
  registry : Registry S N

namespace Registry

def empty : Registry S N := ⟨none⟩

def get (registry : Registry S N) : Option (Enumeration S N) := registry.content

/-- **The enumeration of the registry, registered first if there is none.**  A failure leaves the
registry empty, and an enumeration which is there is given whatever the arguments are. -/
def getOrRegister [DecidableEq S] [DecidableEq N] (registry : Registry S N) (names : MemberType S)
    (indexes : MemberType N) (id : String) (definition : List (S × N)) (settings : List (Setting S N)) :
    Visit S N (Except Rejection (Enumeration S N)) :=
  match registry.content with
  | some enumeration => ⟨.ok enumeration, .nothing, registry⟩
  | none =>
    let registration := register names indexes id definition settings
    ⟨registration.outcome, registration.taken, ⟨registration.outcome.toOption⟩⟩

/-- The enumeration of the registry, made first if there is none. -/
def getOrInit (registry : Registry S N) (make : Unit → Enumeration S N × Taken) :
    Visit S N (Enumeration S N) :=
  match registry.content with
  | some enumeration => ⟨enumeration, .nothing, registry⟩
  | none =>
    let (enumeration, taken) := make ()
    ⟨enumeration, taken, ⟨some enumeration⟩⟩

end Registry

end EnumTables.Enumeration
