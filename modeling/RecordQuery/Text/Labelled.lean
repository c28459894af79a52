/-!
# Values shown by name

The diagnostic form of a value: its name and its fields, on one line or as an indented block, or its
name around a single unnamed part.
-/

namespace RecordQuery.Text

/-- A name around one part without a label. -/
def enclosed (name part : String) : String :=
  name ++ "(" ++ part ++ ")"

/-- A name with labelled parts, in the order in which they are shown. -/
structure Labelled where
  name : String
  parts : List (String × String)

namespace Labelled

/-- All on one line, the parts separated by commas. -/
def line (shown : Labelled) : String :=
  shown.name ++ " \x7b " ++
    ", ".intercalate (shown.parts.map fun (label, text) => label ++ ": " ++ text) ++ " \x7d"

/-- One part a line, each indented by four spaces and followed by a comma. -/
def block (shown : Labelled) : String :=
  shown.name ++ " \x7b\n" ++
    String.join (shown.parts.map fun (label, text) => "    " ++ label ++ ": " ++ text ++ ",\n") ++
    "\x7d"

end Labelled

end RecordQuery.Text
