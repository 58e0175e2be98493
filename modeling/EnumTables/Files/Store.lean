import EnumTables.Files.FilePath
import EnumTables.Files.Trouble

/-!
# A tree of files

Files and directories below one directory, which paths start from.  What lies outside of that directory is
not known: paths which leave it find nothing.

* `Entry` and `Store` — what stands at a place.
* `Spot` — where the pieces of a path have led.
* `Store.step` and `Store.walk` — one more piece, and all of them.
* `Store.read`, `Store.write` — the text of a file, and another text in its place.
-/

namespace EnumTables.Files

/-! ## Places -/

/-- The names which lead to a place. -/
abbrev Place := List (List Char)

/-- What stands at a place. -/
inductive Entry where
  | directory
  | file (bytes : ByteArray)

/-- **A tree of files**, by the places of what is in it. -/
structure Store where
  entries : List (Place × Entry)

namespace Store

def empty : Store := ⟨[]⟩

/-- What stands at a place.  The directory which paths start from is always there. -/
def find? (store : Store) (place : Place) : Option Entry :=
  if place = [] then some .directory else store.entries.lookup place

/-- The tree with something at a place. -/
def put (store : Store) (place : Place) (entry : Entry) : Store :=
  ⟨(place, entry) :: store.entries.filter fun other => other.1 ≠ place⟩

/-- Entries of one place are nothing to the others. -/
theorem lookup_filter {place other : Place} (h : other ≠ place) (entries : List (Place × Entry)) :
    (entries.filter fun entry => entry.1 ≠ place).lookup other = entries.lookup other := by
  induction entries with
  | nil => rfl
  | cons head rest ih =>
    by_cases dropped : head.1 = place
    · have beside : (other == head.1) = false := by simpa [dropped] using h
      rw [List.filter_cons_of_neg (by simpa using dropped), ih, List.lookup_cons, beside]
    · rw [List.filter_cons_of_pos (by simpa using dropped), List.lookup_cons, List.lookup_cons, ih]

/-- Only what was put at a place is changed. -/
theorem find?_put (store : Store) {place : Place} (h : place ≠ []) (other : Place) (entry : Entry) :
    (store.put place entry).find? other = if other = place then some entry else store.find? other := by
  by_cases same : other = place
  · subst same
    simp [find?, put, h]
  · have beside : (other == place) = false := by simpa using same
    simp only [find?, put, same, if_false, List.lookup_cons, beside, lookup_filter same]

end Store

/-! ## Ways -/

/-- Where the pieces of a path have led. -/
inductive Spot where
  /-- A directory of which nothing is known. -/
  | outside
  | directory (place : Place)
  | file (place : Place) (bytes : ByteArray)
  /-- A name which is not taken, in a directory which is there. -/
  | vacant (place : Place)

/-- The longest name, in bytes. -/
def nameLimit : Nat := 255

/-- The longest path, in bytes. -/
def pathLimit : Nat := 4095

def byteCount (cs : List Char) : Nat := cs.foldl (fun count c => count + c.utf8Size) 0

namespace Store

/-- What a place has become. -/
def spotAt (store : Store) (place : Place) : Spot :=
  match store.find? place with
  | some .directory => .directory place
  | some (.file bytes) => .file place bytes
  | none => .vacant place

/-- **One more piece of a path.**  Only directories have something behind them. -/
def step (store : Store) (spot : Spot) (piece : List Char) : Except Trouble Spot :=
  match spot with
  | .vacant _ => .error .missing
  | .file _ _ => .error .notDirectory
  | .outside =>
    if isIdle piece || piece == ['.', '.'] then .ok .outside else .error .missing
  | .directory place =>
    if isIdle piece then .ok (.directory place)
    else if piece = ['.', '.'] then
      .ok (if place.isEmpty then .outside else .directory place.dropLast)
    else if nameLimit < byteCount piece then .error .nameTooLong
    else .ok (store.spotAt (place ++ [piece]))

/-- All pieces of a path. -/
def walk (store : Store) (path : FilePath) : Except Trouble Spot :=
  path.pieces.foldlM store.step (if path.rooted then .outside else .directory [])

end Store

/-- What no system accepts as a path. -/
def refusal? (path : String) : Option Trouble :=
  if path.toList.contains '\x00' then some .zeroInName
  else if path.isEmpty then some .missing
  else if pathLimit < path.utf8ByteSize then some .nameTooLong
  else none

/-! ## Reading and writing -/

namespace Store

/-- **The text of a file.** -/
def read (store : Store) (path : String) : Except Trouble String :=
  match refusal? path with
  | some trouble => .error trouble
  | none => do
    match ← store.walk (.ofText path) with
    | .outside | .directory _ => .error .isDirectory
    | .vacant _ => .error .missing
    | .file _ bytes =>
      match String.fromUTF8? bytes with
      | some text => .ok text
      | none => .error .notText

/-- A path without slashes behind it. -/
def withoutSlashes (path : FilePath) : FilePath :=
  { path with pieces := (path.pieces.reverse.dropWhile (·.isEmpty)).reverse }

/-- The place at which a file with a path is written.  Slashes behind a name ask for a directory. -/
def target (store : Store) (path : String) : Except Trouble Place :=
  match refusal? path with
  | some trouble => .error trouble
  | none => do
    match ← store.walk (withoutSlashes (.ofText path)) with
    | .outside | .directory _ => .error .isDirectory
    | .file place _ | .vacant place =>
      if path.endsWith "/" then .error .isDirectory else .ok place

/-- **Another text for a file**, which is made if it is not there. -/
def write (store : Store) (path text : String) : Except Trouble Store := do
  return store.put (← store.target path) (.file text.toUTF8)

/-- More bytes behind those of a file, which is made if it is not there. -/
def append? (store : Store) (path : String) (bytes : ByteArray) : Option Store := do
  let place ← (store.target path).toOption
  let before := match store.find? place with
    | some (.file before) => before
    | _ => .empty
  return store.put place (.file (before ++ bytes))

/-! ## Setting up -/

/-- The tree with directories at a place and at all places which lead to it. -/
def withDirectories (store : Store) (place : Place) : Store :=
  (List.range place.length).foldl (fun store length =>
    store.put (place.take (length + 1)) .directory) store

/-- The names in a path. -/
def placeOf (path : String) : Place :=
  (FilePath.ofText path).pieces.filter fun piece => !isIdle piece

/-- The tree with a directory, and the directories which lead to it. -/
def withDirectory (store : Store) (path : String) : Store :=
  store.withDirectories (placeOf path)

/-- The tree with a file, and the directories which lead to it. -/
def withFile (store : Store) (path : String) (bytes : ByteArray) : Store :=
  (store.withDirectories (placeOf path).dropLast).put (placeOf path) (.file bytes)

end Store

end EnumTables.Files
