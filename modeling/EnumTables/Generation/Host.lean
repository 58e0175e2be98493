import EnumTables.Files.Store

/-!
# What generation asks its surroundings for

* `Formatting` — what a formatter comes to.
* `Host` — files and a formatter, under any effect.
* `Store.host` — files of a tree, and a formatter which works on it.
-/

namespace EnumTables.Generation

open EnumTables.Files

/-- What a formatter comes to which is asked to format a file. -/
inductive Formatting where
  | done
  /-- It ran, and complained. -/
  | refused (complaint : String)
  | notStarted (reason : String)
deriving DecidableEq, Repr

/-- **The surroundings of generation**: files to read and to write, and a formatter, which is given
arguments. -/
structure Host (m : Type → Type) where
  read : String → m (Except Trouble String)
  write : String → String → m (Except Trouble Unit)
  format : List String → m Formatting

/-- A formatter which works on a tree of files. -/
abbrev Formatter := List String → Store → Formatting × Store

/-- The formatter which is not there. -/
def Formatter.absent : Formatter :=
  fun _ store => (.notStarted Trouble.missing.message, store)

end EnumTables.Generation

namespace EnumTables.Files.Store

open EnumTables.Generation

/-- Another text for a file, in the tree which is worked on.  A failure leaves the tree alone. -/
def writing (path text : String) : StateM Store (Except Trouble Unit) := fun store =>
  match store.write path text with
  | .ok store => pure (.ok (), store)
  | .error trouble => pure (.error trouble, store)

/-- **A tree of files as surroundings.** -/
def host (formatter : Formatter) : Host (StateM Store) where
  read path := fun store => pure (store.read path, store)
  write := writing
  format arguments := fun store => pure (formatter arguments store)

end EnumTables.Files.Store
