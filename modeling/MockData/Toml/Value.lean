/-!
Values of a settings file, and how its tables come about. A table may be written under its own
header, as a dotted key, or in braces, and how it was written decides what may still be added to
it.
-/
namespace MockData.Toml

/-- `implied` tables are only on the way to a header, `dotted` ones on the way to a key; tables in
braces are `closed`. -/
inductive TableKind
  | headed
  | implied
  | dotted
  | closed
  deriving DecidableEq, Repr

/-- `tables` are those of one repeated header, the last one first. -/
inductive Value
  | text (s : String)
  | boolean (b : Bool)
  | integer (n : Int)
  | float (x : Float)
  | dateTime
  | array (items : List Value)
  | table (kind : TableKind) (entries : List (String × Value))
  | tables (ts : List (List (String × Value)))
  deriving Repr

abbrev Entries := List (String × Value)

namespace Entries

def find? (es : Entries) (key : String) : Option Value := (es.lookup key)

def put (es : Entries) (key : String) (v : Value) : Entries :=
  match es with
  | [] => [(key, v)]
  | (k, w) :: es => if k = key then (k, v) :: es else (k, w) :: put es key v

/-- Follows a path of keys to a table and changes it there. Tables that are missing on the way are
made. A dotted path does not go through tables that have a header of their own; no path goes
through a closed one. -/
def descend (dotted : Bool) (change : TableKind → Entries → Option Entries) :
    (path : List String) → TableKind → Entries → Option Entries
  | [], kind, es => change kind es
  | key :: path, _, es =>
    match es.find? key with
    | none =>
      let kind := if dotted then .dotted else .implied
      (descend dotted change path kind []).map fun t => put es key (.table kind t)
    | some (.table kind t) =>
      if kind = .closed ∨ (dotted ∧ kind = .headed) then none
      else (descend dotted change path kind t).map fun t => put es key (.table kind t)
    | some (.tables (t :: ts)) =>
      (descend dotted change path .headed t).map fun t => put es key (.tables (t :: ts))
    | some _ => none

/-- Adds a value under a dotted key to a table. A key of one part does not go into a dotted table,
nor a longer one into a table that is not. -/
def add (path : List String) (key : String) (v : Value) (kind : TableKind) (es : Entries) :
    Option Entries :=
  descend true (fun kind es =>
    if kind = .dotted ↔ path = [] then none
    else if (es.find? key).isSome then none
    else some (es ++ [(key, v)])) path kind es

def openTable (path : List String) (key : String) (root : Entries) : Option Entries :=
  descend false (fun _ es => match es.find? key with
    | none => some (put es key (.table .headed []))
    | some (.table .implied t) => some (put es key (.table .headed t))
    | some _ => none) path .headed root

def openRepeated (path : List String) (key : String) (root : Entries) : Option Entries :=
  descend false (fun _ es => match es.find? key with
    | none => some (put es key (.tables [[]]))
    | some (.tables ts) => some (put es key (.tables ([] :: ts)))
    | some _ => none) path .headed root

end Entries

end MockData.Toml
