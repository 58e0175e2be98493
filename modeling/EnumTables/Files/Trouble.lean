/-!
# Why a file cannot be read or written

* `Trouble` — the reasons; `Trouble.message` words them.
-/

namespace EnumTables.Files

/-- Why a file cannot be read or written. -/
inductive Trouble where
  | missing
  /-- A file stands where the path needs a directory. -/
  | notDirectory
  | isDirectory
  | nameTooLong
  /-- No name of a file holds the character zero. -/
  | zeroInName
  /-- The bytes of the file are no text. -/
  | notText
  /-- Whatever else a system may say. -/
  | other (text : String)
deriving DecidableEq, Repr

/-- The wording of a reason, with the number under which systems know it. -/
def Trouble.message : Trouble → String
  | missing => "No such file or directory (os error 2)"
  | notDirectory => "Not a directory (os error 20)"
  | isDirectory => "Is a directory (os error 21)"
  | nameTooLong => "File name too long (os error 36)"
  | zeroInName => "file name contained an unexpected NUL byte"
  | notText => "stream did not contain valid UTF-8"
  | other text => text

end EnumTables.Files
