/-!
# Structured text in two layouts

A `Layout` holds one structured text twice: on a single line, and as an indented block with a line
for every part. The combinators build both at once, so the two always show the same structure.
-/

namespace ClusterTopology

/-- A structured text on one line, and as the lines of a block. -/
structure Layout where
  line : String
  block : List String
deriving DecidableEq, Repr

namespace Layout

/-- A text without inner structure. -/
def atom (text : String) : Layout := ⟨text, [text]⟩

/-- Lines one level deeper. -/
def indent (lines : List String) : List String := lines.map ("    " ++ ·)

/-- The lines with a comma after the last one. -/
def withComma : List String → List String
  | [] => []
  | [l] => [l ++ ","]
  | l :: ls => l :: withComma ls

/-- Writes `label: ` in front of the first line. -/
def labelled (label : String) (part : Layout) : Layout where
  line := label ++ ": " ++ part.line
  block :=
    match part.block with
    | [] => []
    | l :: ls => (label ++ ": " ++ l) :: ls

/-- Parts between an opening and a closing text. On one line they stand between `pad` and are
separated by commas, in a block each part is indented and ends in a comma. -/
def enclose (opening pad closing : String) (parts : List Layout) : Layout where
  line := opening ++ pad ++ ", ".intercalate (parts.map line) ++ pad ++ closing
  block := opening :: (parts.map fun p => indent (withComma p.block)).flatten ++ [closing]

/-- A named list of parts: `Name(a, b)`. -/
def tuple (name : String) (parts : List Layout) : Layout :=
  enclose (name ++ "(") "" ")" parts

/-- A named list of labelled parts: `Name { a: x, b: y }`. -/
def record (name : String) (parts : List (String × Layout)) : Layout :=
  enclose (name ++ " \x7b") " " "\x7d" (parts.map fun p => labelled p.1 p.2)

/-- A set of parts; the empty set is a pair of braces in both layouts. -/
def set : List Layout → Layout
  | [] => atom "\x7b\x7d"
  | parts => enclose "\x7b" "" "\x7d" parts

/-- A value that may be absent. -/
def option {α : Type} (layout : α → Layout) : Option α → Layout
  | none => atom "None"
  | some a => tuple "Some" [layout a]

end Layout

end ClusterTopology
