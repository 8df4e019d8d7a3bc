/-!
Fields of a block: the kinds of value a field may hold, and the values themselves.
-/
namespace MockData

/-- `nullable` is a string literal or the bare word null; `decimal` has an optional fraction and
no sign. -/
inductive FieldKind
  | text
  | nullable
  | unsigned
  | decimal
  deriving DecidableEq, Repr

structure Field where
  name : String
  kind : FieldKind
  deriving DecidableEq, Repr

inductive FieldValue
  | text (s : String)
  | null
  | unsigned (n : UInt64)
  | decimal (x : Float)
  deriving Repr

namespace FieldValue

def text? : FieldValue → Option String
  | .text s => some s
  | _ => none

/-- The text of a nullable value; null is the absent text, and numbers are not text at all. -/
def nullable? : FieldValue → Option (Option String)
  | .text s => some (some s)
  | .null => some none
  | _ => none

def unsigned? : FieldValue → Option UInt64
  | .unsigned n => some n
  | _ => none

/-- Whole numbers are decimals too, rounded to the nearest one. -/
def decimal? : FieldValue → Option Float
  | .unsigned n => some n.toFloat
  | .decimal x => some x
  | _ => none

end FieldValue

end MockData
