import MockData.Toml.Scalar
import MockData.Toml.Text

/-!
Whole settings files: lines of keys with values, under headers that say to which table they
belong. Arrays and tables in braces are nested less than eighty deep.
-/
namespace MockData.Toml

def arrayRest (value : Parser Value) : (fuel : Nat) → Parser (List Value)
  | 0, _ => none
  | fuel + 1, cs => do
    match ← dropLines cs.length cs with
    | ']' :: cs => some ([], cs)
    | cs =>
      let (v, cs) ← value cs
      match ← dropLines cs.length cs with
      | ',' :: cs => (arrayRest value fuel cs).map fun p => (v :: p.1, p.2)
      | ']' :: cs => some ([v], cs)
      | _ => none

def keyValue (value : Parser Value) (cs : List Char) :
    Option ((List String × String × Value) × List Char) := do
  let ((path, name), cs) ← key cs
  match cs with
  | '=' :: cs =>
    let (v, cs) ← value (dropBlanks cs)
    return ((path, name, v), cs)
  | _ => none

def braceRest (value : Parser Value) : (fuel : Nat) → Entries → Parser Entries
  | 0, _, _ => none
  | fuel + 1, es, cs => do
    let ((path, name, v), cs) ← keyValue value cs
    let es ← es.add path name v .headed
    match dropBlanks cs with
    | ',' :: cs => braceRest value fuel es cs
    | '\x7d' :: cs => some (es, cs)
    | _ => none

def word (cs : List Char) : Option (Value × List Char) :=
  (scalar? (takeWord cs).1).map fun v => (v, (takeWord cs).2)

def value (depth : Nat) : Parser Value := fun cs =>
  match cs with
  | '"' :: _ | '\'' :: _ => (string cs).map fun p => (.text (String.ofList p.1), p.2)
  | '[' :: cs => match depth with
    | 0 => none
    | depth + 1 => (arrayRest (value depth) (cs.length + 1) cs).map fun p => (.array p.1, p.2)
  | '\x7b' :: cs => match depth with
    | 0 => none
    | depth + 1 => match dropBlanks cs with
      | '\x7d' :: cs => some (.table .closed [], cs)
      | cs => (braceRest (value depth) (cs.length + 1) [] cs).map fun p => (.table .closed p.1, p.2)
  | cs => word cs

/-- A file read so far: its tables, and the header under which the next lines stand. -/
structure Document where
  root : Entries
  header : Option (List String × String)

namespace Document

def add (d : Document) (path : List String) (name : String) (v : Value) : Option Document :=
  let change (kind : TableKind) (es : Entries) := es.add path name v kind
  let table := match d.header with
    | none => []
    | some (above, last) => above ++ [last]
  (d.root.descend false change table .headed).map fun root => { d with root := root }

def openHeader (d : Document) (cs : List Char) : Option (Document × List Char) := do
  match cs with
  | '[' :: cs =>
    let ((path, name), cs) ← key cs
    match cs with
    | ']' :: ']' :: cs =>
      return (⟨← d.root.openRepeated path name, some (path, name)⟩, ← lineEnd cs)
    | _ => none
  | cs =>
    let ((path, name), cs) ← key cs
    match cs with
    | ']' :: cs => return (⟨← d.root.openTable path name, some (path, name)⟩, ← lineEnd cs)
    | _ => none

def lines : (fuel : Nat) → Document → List Char → Option Document
  | 0, _, _ => none
  | fuel + 1, d, cs =>
    match dropBlanks cs with
    | [] => some d
    | '#' :: cs => (lineEnd ('#' :: cs)).bind (lines fuel d)
    | '[' :: cs => do
      let (d, cs) ← d.openHeader cs
      lines fuel d cs
    | c :: cs =>
      if c = '\n' ∨ c = '\r' then (newline (c :: cs)).bind (lines fuel d)
      else do
        let ((path, name, v), cs) ← keyValue (value 79) (c :: cs)
        lines fuel (← d.add path name v) (← lineEnd cs)

/-- The root table of a file. A byte order mark at its start is passed over. -/
def ofText? (s : String) : Option Value :=
  let cs := match s.toList with
    | '\ufeff' :: cs => cs
    | cs => cs
  (lines (cs.length + 1) ⟨[], none⟩ cs).map fun d => .table .headed d.root

end Document

end MockData.Toml
