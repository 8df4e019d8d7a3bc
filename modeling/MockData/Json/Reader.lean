/-!
Reading typed values from a text. A reader takes what it needs off the front of the text and
leaves the rest, or tells why it cannot; the first failure in the order of the text is the one
that is told.
-/
namespace MockData.Json

inductive Failure
  | ended
  | malformed
  | mismatch
  | missing (member : String)
  | duplicate (member : String)
  deriving DecidableEq, Repr

def Failure.message? : Failure → Option String
  | .missing name => some ("missing field `" ++ name ++ "`")
  | .duplicate name => some ("duplicate field `" ++ name ++ "`")
  | _ => none

abbrev Reader (α : Type) := List Char → Except Failure (α × List Char)

def isBlank (c : Char) : Bool := c = ' ' || c = '\n' || c = '\t' || c = '\r'

def dropBlanks (cs : List Char) : List Char := cs.dropWhile isBlank

def word : List Char → List Char → Except Failure (List Char)
  | [], cs => .ok cs
  | _ :: _, [] => .error .ended
  | w :: ws, c :: cs => if w = c then word ws cs else .error .malformed

def Reader.whole (read : Reader α) (text : String) : Except Failure α := do
  let (a, rest) ← read text.toList
  if (dropBlanks rest).isEmpty then return a else .error .malformed

end MockData.Json
