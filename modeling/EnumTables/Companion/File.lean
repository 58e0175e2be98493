import EnumTables.Token.Printer

/-!
# The file of a companion

* `fileText` — the text of the file: a header and the code.
-/

namespace EnumTables.Companion

open EnumTables.Token

/-- The version which the header and the command name. -/
def version : String := "1.0.0"

/-- **The text of the file**: a header, with the time of generation if it is given, and the code. -/
def fileText (code : List Token) (time : Option String) : String :=
  "// Code generated by enumgen; DO NOT EDIT.\n" ++
    "// Version: " ++ version ++ "\n" ++
    (match time with
      | some time => "// Executed At: " ++ time ++ "\n"
      | none => "") ++
    "\n" ++ render code ++ "\n"

end EnumTables.Companion
