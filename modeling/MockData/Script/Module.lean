import MockData.Records.Repeat
import MockData.Script.Helper

/-!
A module: a comment, the exported list of records, and its helper functions. A layout without a
name for the list or for a record, or with two helpers of one name, has no text.
-/
namespace MockData.Script

/-- `header` and `title` are the lines of the two comments, `list` names the list of records and
`item` one record inside a helper. -/
structure Layout where
  header : List String
  list : String
  title : String
  item : String
  helpers : List Helper
  deriving DecidableEq, Repr

inductive LayoutError
  | emptyName
  | duplicateHelper (name : String)
  deriving DecidableEq, Repr

def LayoutError.message : LayoutError → String
  | .emptyName => "invalid module spec: collection and alias must be non-empty"
  | .duplicateHelper name => "invalid module spec: duplicate helper name: " ++ name

abbrev Entries := List (String × Literal)

namespace Layout

def check (layout : Layout) : Except LayoutError Unit :=
  if layout.list = "" ∨ layout.item = "" then .error .emptyName
  else match firstRepeat? [] (layout.helpers.map (·.name)) with
    | some name => .error (.duplicateHelper name)
    | none => .ok ()

def comment (ls : List String) : String :=
  lines ("/**" :: ls.map (" * " ++ ·) ++ [" */"])

def record (entries : Entries) : String :=
  let fields := entries.map fun e => "    " ++ e.1 ++ ": " ++ e.2.render
  "  \x7b\n" ++ lines (commas fields) ++ "  \x7d"

def helper (layout : Layout) (h : Helper) : String :=
  (h.function layout.list layout.item).render ++ "\n"

def text (layout : Layout) (records : List Entries) : String :=
  comment layout.header ++ "\n"
    ++ "export const " ++ layout.list ++ " = [\n"
    ++ lines (commas (records.map record))
    ++ "];\n\n"
    ++ comment [layout.title]
    ++ String.join (layout.helpers.map layout.helper)
    ++ "export default " ++ layout.list ++ ";\n"

def render (layout : Layout) (records : List Entries) : Except LayoutError String :=
  layout.check.map fun _ => layout.text records

theorem render_eq_ok {layout : Layout} {records : List Entries} {text : String} :
    layout.render records = .ok text ↔ layout.check = .ok () ∧ layout.text records = text := by
  rw [render]
  cases layout.check with
  | error e => simp [Except.map]
  | ok u => simp [Except.map]

end Layout

end MockData.Script
