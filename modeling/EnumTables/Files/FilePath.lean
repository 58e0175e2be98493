import EnumTables.Text.CaseMap

/-!
# Paths of files

A path is read as it is written: pieces with slashes between them, behind a slash if it begins at the
root.  Empty pieces and dots say nothing, except for a dot at the beginning of a path which does not begin
at the root.

* `FilePath` — the pieces of a path, with `ofText` and `text`.
* `Component` and `FilePath.components` — what the pieces say.
* `FilePath.fileName?`, `FilePath.stem` — the last component if it is a name, and the name without its
  extension.
* `FilePath.withFileName` — another name in its place.
* `defaultOutput` — where the companion of a source file goes.
-/

namespace EnumTables.Files

open EnumTables.Text

/-! ## Pieces -/

/-- A path in pieces. -/
structure FilePath where
  rooted : Bool
  pieces : List (List Char)
deriving DecidableEq, Repr

namespace FilePath

def ofText (text : String) : FilePath :=
  match text.toList with
  | '/' :: rest => ⟨true, rest.splitOn '/'⟩
  | cs => ⟨false, cs.splitOn '/'⟩

def text (path : FilePath) : String :=
  String.ofList ((if path.rooted then ['/'] else []) ++ ['/'].intercalate path.pieces)

end FilePath

/-! ## Components -/

/-- What a piece of a path says. -/
inductive Component where
  | here
  | up
  | name (name : List Char)
deriving DecidableEq, Repr

/-- Whether a piece says nothing where it stands: it is empty, or a dot which does not begin the path. -/
def isIdle (piece : List Char) : Bool := piece == [] || piece == ['.']

/-- What a piece says; `first` tells whether a dot counts. -/
def componentOf? (first : Bool) (piece : List Char) : Option Component :=
  if piece = ['.'] ∧ first then some .here
  else if isIdle piece then none
  else if piece = ['.', '.'] then some .up
  else some (.name piece)

namespace FilePath

/-- What the pieces of a path say. -/
def components (path : FilePath) : List Component :=
  match path.pieces with
  | [] => []
  | first :: rest =>
    (componentOf? (!path.rooted) first).toList ++ rest.filterMap (componentOf? false)

/-- The pieces without idle ones behind them.  A dot at the beginning stays. -/
def trimPieces (rooted : Bool) (pieces : List (List Char)) : List (List Char) :=
  match pieces with
  | [] => []
  | first :: rest =>
    let rest := (rest.reverse.dropWhile isIdle).reverse
    if rest.isEmpty && (first == [] || (rooted && isIdle first)) then [] else first :: rest

/-- The path without idle pieces behind it. -/
def trimmed (path : FilePath) : FilePath :=
  { path with pieces := trimPieces path.rooted path.pieces }

/-! ## Names -/

/-- **The name of the file**: the last component, if it is a name. -/
def fileName? (path : FilePath) : Option (List Char) :=
  match path.components.getLast? with
  | some (.name name) => some name
  | _ => none

/-- A name without its extension.  A dot in front of a name begins no extension. -/
def stemOf (name : List Char) : List Char :=
  let extension := name.reverse.takeWhile (· != '.')
  let stem := (name.reverse.drop (extension.length + 1)).reverse
  if stem.isEmpty then name else stem

/-- The name of the file without its extension; empty if there is none. -/
def stem (path : FilePath) : List Char :=
  (path.fileName?.map stemOf).getD []

/-- A path with one more piece. -/
def push (path : FilePath) (piece : List Char) : FilePath :=
  match path.pieces.getLast? with
  | some [] => { path with pieces := path.pieces.dropLast ++ [piece] }
  | _ => { path with pieces := path.pieces ++ [piece] }

/-- The path up to its last component. -/
def parent (path : FilePath) : FilePath :=
  let trimmed := path.trimmed
  FilePath.trimmed { trimmed with pieces := trimmed.pieces.dropLast }

/-- **Another name in the place of the file's**, or behind the path if it has none. -/
def withFileName (path : FilePath) (name : List Char) : FilePath :=
  if path.fileName?.isSome then path.parent.push name else path.push name

end FilePath

/-! ## Companions -/

/-- The end of the name of every companion. -/
def companionSuffix : List Char := "_enum.rs".toList

/-- **Where the companion of a source file goes**: beside it, under its name in small letters. -/
def defaultOutput (source : String) : String :=
  let path := FilePath.ofText source
  let stem := (lowercase (String.ofList path.stem)).toList
  (path.withFileName (stem ++ companionSuffix)).text

end EnumTables.Files
