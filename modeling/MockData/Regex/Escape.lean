import MockData.Regex.Mode
import MockData.Text.Hex

/-!
Escapes in regular expressions: a backslash and what belongs to it. An escape stands for one
character, for a class of them, or for a place between two.
-/
namespace MockData.Regex

inductive Escape
  | literal (c : Char)
  | members
  | place
  deriving DecidableEq, Repr

def hexDigits (mode : Mode) : (count : Nat) → Parser (List Char)
  | 0, cs => some ([], cs)
  | count + 1, cs => match mode.dropSpace cs with
    | [] => none
    | c :: cs =>
      if (Text.hexDigit? c).isSome then (hexDigits mode count cs).map fun p => (c :: p.1, p.2)
      else none

def char? (n : Nat) : Option Char := if n.isValidChar then some (Char.ofNat n) else none

def codePoint (mode : Mode) (count : Nat) (cs : List Char) : Option (Char × List Char) := do
  let (digits, cs) ← hexDigits mode count cs
  return (← (Text.hexValue? digits).bind char?, cs)

def categories : List Char :=
  ['c', 'C', 'l', 'L', 'm', 'M', 'n', 'N', 'p', 'P', 's', 'S', 'z', 'Z']

def control? : Char → Option Char
  | 'a' => some '\x07'
  | 't' => some '\t'
  | 'n' => some '\n'
  | 'v' => some '\x0b'
  | 'f' => some '\x0c'
  | 'r' => some '\r'
  | _ => none

def isSign (c : Char) : Bool := c.toNat < 0x80 && !c.isAlphanum && c ≠ '<' && c ≠ '>'

def escapedLiteral (c : Char) : Option Escape :=
  if isSign c then some (.literal c) else (control? c).map .literal

/-- Two digits name a byte, and a byte beyond ASCII alone is no character. -/
def byteLiteral (mode : Mode) (c : Char) : Option Escape :=
  if mode.admits c then some (.literal c) else none

def category (mode : Mode) : Parser Escape
  | c :: cs => if mode.unicode ∧ c ∈ categories then some (.members, cs) else none
  | [] => none

/-- Reads an escape from just after its backslash. The complement of a class has members beyond
ASCII, and the bounds of words can only be found among the characters of ASCII. -/
def escape (mode : Mode) : Parser Escape
  | [] => none
  | 'x' :: cs => do
    let (c, cs) ← codePoint mode 2 cs
    return (← byteLiteral mode c, cs)
  | 'u' :: cs => (codePoint mode 4 cs).map fun p => (.literal p.1, p.2)
  | 'U' :: cs => (codePoint mode 8 cs).map fun p => (.literal p.1, p.2)
  | 'p' :: cs | 'P' :: cs => category mode (mode.dropSpace cs)
  | 'd' :: cs | 's' :: cs | 'w' :: cs => some (.members, cs)
  | 'D' :: cs | 'S' :: cs | 'W' :: cs => if mode.unicode then some (.members, cs) else none
  | 'A' :: cs | 'z' :: cs => some (.place, cs)
  | 'b' :: cs | 'B' :: cs | '<' :: cs | '>' :: cs =>
    if mode.unicode then none else some (.place, cs)
  | c :: cs => (escapedLiteral c).map fun e => (e, cs)

end MockData.Regex
