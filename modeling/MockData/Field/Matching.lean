import MockData.Field.Basic
import MockData.Script.Escape
import MockData.Text.Blank
import MockData.Text.Digit
import MockData.Text.Word

/-!
Finding one field in a block: its name at a word boundary, a colon, and a value of its kind, with
blanks between. The search takes the leftmost place at which all of this stands; from a given
place on there is at most one way to read it.
-/
namespace MockData.Field

open Text Script

inductive Capture
  | text (body : List Char)
  | null
  | unsigned (digits : List Char)
  | decimal (digits : List Char)
  deriving DecidableEq, Repr

/-- The rest of a string literal after its opening quote: the body as written, and what follows
the closing quote. An escaped line feed is not part of a literal. -/
def literalBody : List Char → Option (List Char × List Char)
  | [] => none
  | '"' :: rest => some ([], rest)
  | '\\' :: c :: rest =>
    if c = '\n' then none else (literalBody rest).map fun p => ('\\' :: c :: p.1, p.2)
  | c :: rest => (literalBody rest).map fun p => (c :: p.1, p.2)

def stringLiteral : List Char → Option (Capture × List Char)
  | '"' :: rest => (literalBody rest).map fun p => (.text p.1, p.2)
  | _ => none

/-- The word null, not running on into a longer word. -/
def nullWord : List Char → Option (Capture × List Char)
  | 'n' :: 'u' :: 'l' :: 'l' :: rest =>
    if isBoundary (some 'l') rest.head? then some (.null, rest) else none
  | _ => none

def wholeNumber (cs : List Char) : Option (Capture × List Char) :=
  match takeDigits cs with
  | ([], _) => none
  | (ds, rest) => some (.unsigned ds, rest)

def decimalNumber (cs : List Char) : Option (Capture × List Char) :=
  match takeDigits cs with
  | ([], '.' :: rest) => match takeDigits rest with
    | ([], _) => none
    | (ds, rest) => some (.decimal ('.' :: ds), rest)
  | ([], _) => none
  | (ds, '.' :: rest) =>
    let (fs, rest) := takeDigits rest
    some (.decimal (ds ++ '.' :: fs), rest)
  | (ds, rest) => some (.decimal ds, rest)

def matchValue : FieldKind → List Char → Option (Capture × List Char)
  | .text, cs => stringLiteral cs
  | .nullable, cs => (nullWord cs).or (stringLiteral cs)
  | .unsigned, cs => wholeNumber cs
  | .decimal, cs => decimalNumber cs

def dropName : (name : List Char) → List Char → Option (List Char)
  | [], cs => some cs
  | _ :: _, [] => none
  | n :: ns, c :: cs => if n = c then dropName ns cs else none

def matchHere (name : List Char) (kind : FieldKind) (before : Option Char) (cs : List Char) :
    Option (Capture × List Char) :=
  match dropName name cs with
  | none => none
  | some rest =>
    if isBoundary before cs.head? then
      match dropBlanks rest with
      | ':' :: rest => matchValue kind (dropBlanks rest)
      | _ => none
    else none

/-- Reads the field at the leftmost place that allows it. -/
def search (name : List Char) (kind : FieldKind) :
    (before : Option Char) → List Char → Option (Capture × List Char)
  | before, [] => matchHere name kind before []
  | before, c :: cs => (matchHere name kind before (c :: cs)).or (search name kind (some c) cs)

namespace Capture

def last? : Capture → Option Char
  | .text _ => some '"'
  | .null => some 'l'
  | .unsigned ds => ds.getLast?
  | .decimal ds => ds.getLast?

/-- A number of ASCII digits that fits is itself. Any other run of digits, too large a number or
one in the digits of another script, is the largest value there is. -/
def unsignedValue (ds : List Char) : UInt64 :=
  if ds.all isAsciiDigit ∧ decimalValue ds < UInt64.size then UInt64.ofNat (decimalValue ds)
  else UInt64.ofNat (UInt64.size - 1)

def decimalValue? (cs : List Char) : Option Float :=
  let ds := cs.filter (· ≠ '.')
  let places := ((cs.dropWhile (· ≠ '.')).drop 1).length
  if ds.all isAsciiDigit then some (Float.ofScientific (decimalValue ds) true places) else none

def value? : Capture → Option FieldValue
  | .text body => some (.text (String.ofList (unescape body)))
  | .null => some .null
  | .unsigned ds => some (.unsigned (unsignedValue ds))
  | .decimal ds => (decimalValue? ds).map .decimal

end Capture

end MockData.Field
