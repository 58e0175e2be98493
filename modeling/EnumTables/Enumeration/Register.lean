import EnumTables.Enumeration.Basic

/-!
# Registering enumerations

* `Setting` — what can be changed about an enumeration which was registered.
* `isUnique` and `memberReason?` — the rules for members.
* `Taken` and `Registration` — how much of the arguments was taken, and what came of it.
* `defined` — an enumeration before any setting.
* `takeAll` and `register` — from a definition and settings to an enumeration.
-/

namespace EnumTables.Enumeration

variable {S N : Type}

/-! ## Settings -/

/-- The values which lookups give where nothing is found. -/
structure Setting (S N : Type) where
  index : N
  name : S
deriving DecidableEq, Repr

def Setting.adjust (setting : Setting S N) (enumeration : Enumeration S N) : Enumeration S N where
  index := { enumeration.index with undefined := setting.index }
  description := { enumeration.description with undefined := setting.name }

/-! ## Rules -/

/-- Whether no value occurs twice, and none is one of those which were seen before.  Nothing is looked at
behind a value which is. -/
def isUniqueBehind {α : Type} [DecidableEq α] (seen : List α) : List α → Bool
  | [] => true
  | value :: rest => if value ∈ seen then false else isUniqueBehind (value :: seen) rest

/-- Whether no value occurs twice. -/
def isUnique {α : Type} [DecidableEq α] (values : List α) : Bool :=
  isUniqueBehind [] values

/-- **The first rule which members break**, given their names and their indices: there is a member, and
neither an index nor a name may occur twice. -/
def memberReason? [DecidableEq S] [DecidableEq N] (names : List S) (indexes : List N) : Option Reason :=
  if names.isEmpty then some .noMembers
  else if !isUnique indexes then some .sameIndexes
  else if !isUnique names then some .sameNames
  else none

/-! ## Registration -/

/-- How many members of a definition and how many settings were taken. -/
structure Taken where
  members : Nat
  settings : Nat
deriving DecidableEq, Repr

/-- Nothing was taken. -/
def Taken.nothing : Taken := ⟨0, 0⟩

/-- What came of a registration. -/
structure Registration (S N : Type) where
  outcome : Except Rejection (Enumeration S N)
  taken : Taken

/-- An enumeration as it is defined, before any setting. -/
def defined (names : MemberType S) (indexes : MemberType N) (id : String)
    (definition : List (S × N)) : Enumeration S N where
  index := .ofValues indexes id (definition.map Prod.snd)
  description := .ofValues names id (definition.map Prod.fst)

/-- Takes items one by one until none is left.  Gives what they come to, and how many there were. -/
def takeAll {α β : Type} (step : β → α → β) (start : β) : List α → β × Nat
  | [] => (start, 0)
  | item :: rest =>
    let (result, taken) := takeAll step (step start item) rest
    (result, taken + 1)

/-- The names and the indices before a member, and then its own. -/
def withMember (sides : List S × List N) (member : S × N) : List S × List N :=
  (sides.1 ++ [member.1], sides.2 ++ [member.2])

/-- **Registers an enumeration.**  Without an id nothing is looked at, and settings are looked at only if
the definition is accepted. -/
def register [DecidableEq S] [DecidableEq N] (names : MemberType S) (indexes : MemberType N)
    (id : String) (definition : List (S × N)) (settings : List (Setting S N)) : Registration S N :=
  if id = "" then
    { outcome := .error (.definition id Reason.noId.message), taken := .nothing }
  else
    let (sides, members) := takeAll withMember ([], []) definition
    match memberReason? sides.1 sides.2 with
    | some reason =>
      { outcome := .error (.definition id reason.message), taken := ⟨members, 0⟩ }
    | none =>
      let plain := { index := .ofValues indexes id sides.2, description := .ofValues names id sides.1 }
      let (enumeration, adjustments) :=
        takeAll (fun enumeration setting => setting.adjust enumeration) plain settings
      { outcome := .ok enumeration, taken := ⟨members, adjustments⟩ }

end EnumTables.Enumeration
