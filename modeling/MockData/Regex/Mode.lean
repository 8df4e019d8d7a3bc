import MockData.Text.Blank

/-!
The modes in which a regular expression is read. Whether its characters are those of Unicode
decides what may match; in verbose mode blanks and comments between its parts do not count.
-/
namespace MockData.Regex

abbrev Parser (α : Type) := List Char → Option (α × List Char)

structure Mode where
  unicode : Bool
  verbose : Bool
  deriving DecidableEq, Repr

def Mode.plain : Mode := ⟨true, false⟩

def dropComments : (inside : Bool) → List Char → List Char
  | _, [] => []
  | true, c :: cs => dropComments (c ≠ '\n') cs
  | false, c :: cs =>
    if Text.isBlank c then dropComments false cs
    else if c = '#' then dropComments true cs
    else c :: cs

namespace Mode

def dropSpace (mode : Mode) (cs : List Char) : List Char :=
  if mode.verbose then dropComments false cs else cs

/-- The character by which a dash is told from a sign of a range. In verbose mode it may stand
behind blanks and the sign of a comment, but not behind the comment. -/
def peek (mode : Mode) (cs : List Char) : Option Char :=
  if mode.verbose then
    let found := match Text.dropBlanks cs with
      | '#' :: cs => Text.dropBlanks cs
      | cs => cs
    found.head?.or cs.head?
  else cs.head?

/-- A character that may be matched as such; without Unicode only those of ASCII can be members of
a set. -/
def admits (mode : Mode) (c : Char) : Bool := mode.unicode || c.toNat < 0x80

end Mode

end MockData.Regex
