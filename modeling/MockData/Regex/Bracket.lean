import MockData.Regex.Escape

/-!
Sets of characters in regular expressions, between square brackets. A set has characters, ranges,
classes and further sets as its members; operators combine the members on their left with those
on their right. The readers answer how deep what they read is nested.
-/
namespace MockData.Regex

def classNames : List String := [
  "alnum", "alpha", "ascii", "blank", "cntrl", "digit", "graph", "lower", "print", "punct",
  "space", "upper", "word", "xdigit"]

def namedClass : Parser Bool
  | ':' :: cs =>
    let (complement, cs) := match cs with
      | '^' :: cs => (true, cs)
      | cs => (false, cs)
    match cs.dropWhile (· ≠ ':') with
    | ':' :: ']' :: rest =>
      if String.ofList (cs.takeWhile (· ≠ ':')) ∈ classNames then some (complement, rest) else none
    | _ => none
  | _ => none

def member (mode : Mode) : Parser Escape
  | [] => none
  | '\\' :: cs => escape mode cs
  | c :: cs => some (.literal c, cs)

def isMember (mode : Mode) : Escape → Bool
  | .literal c => mode.admits c
  | .members => true
  | .place => false

def isRange (mode : Mode) : Escape → Escape → Bool
  | .literal a, .literal b => mode.admits a && mode.admits b && a ≤ b
  | _, _ => false

/-- Passes over a member or a range. A dash before the closing bracket stands for itself, and one
before another dash belongs to an operator. -/
def members (mode : Mode) (cs : List Char) : Option (List Char) := do
  let (first, cs) ← member mode cs
  match mode.dropSpace cs with
  | '-' :: cs =>
    if mode.peek cs = some ']' ∨ mode.peek cs = some '-' then
      if isMember mode first then some ('-' :: cs) else none
    else
      let (last, cs) ← member mode (mode.dropSpace cs)
      if isRange mode first last then some cs else none
  | cs => if isMember mode first then some cs else none

/-- The depth of so many parts of which the deepest is this deep; a single part counts as itself. -/
def joined (count deepest : Nat) : Nat := if count < 2 then deepest else deepest + 1

/-- What has been read of a set: how deep all before the last operator is, and the members behind
it. -/
structure Members where
  before : Option Nat
  count : Nat
  deepest : Nat
  deriving DecidableEq, Repr

namespace Members

def empty : Members := ⟨none, 0, 0⟩

def add (m : Members) (depth : Nat) : Members := ⟨m.before, m.count + 1, max m.deepest depth⟩

def depth (m : Members) : Nat :=
  match m.before with
  | none => joined m.count m.deepest
  | some d => max d (joined m.count m.deepest) + 1

def operator (m : Members) : Members := ⟨some m.depth, 0, 0⟩

end Members

def dashes (mode : Mode) : (fuel : Nat) → Members → List Char → Members × List Char
  | fuel + 1, m, '-' :: cs => dashes mode fuel (m.add 0) (mode.dropSpace cs)
  | _, m, cs => (m, cs)

/-- Reads the front of a set from just after its bracket: the sign of a complement, dashes, and a
closing bracket that stands for itself since nothing is before it. -/
def setFront (mode : Mode) (fuel : Nat) : Parser Members := fun cs => do
  let cs ← match mode.dropSpace cs with
    | '^' :: cs => if mode.unicode then some (mode.dropSpace cs) else none
    | cs => some cs
  match dashes mode fuel .empty cs with
  | (⟨none, 0, 0⟩, ']' :: cs) => some (Members.empty.add 0, mode.dropSpace cs)
  | found => some found

def setRest (mode : Mode) (inner : Nat → Parser Nat) : (fuel : Nat) → Members → Parser Nat
  | 0, _, _ => none
  | fuel + 1, m, cs => match mode.dropSpace cs with
    | ']' :: cs => some (m.depth + 1, cs)
    | '[' :: cs => match namedClass cs with
      | some (complement, cs) =>
        if complement ∧ !mode.unicode then none else setRest mode inner fuel (m.add 0) cs
      | none => do
        let (depth, cs) ← inner fuel cs
        setRest mode inner fuel (m.add depth) cs
    | '&' :: '&' :: cs | '-' :: '-' :: cs | '~' :: '~' :: cs =>
      setRest mode inner fuel m.operator cs
    | cs => (members mode cs).bind (setRest mode inner fuel (m.add 0))

def set (mode : Mode) (limit : Nat) : (fuel : Nat) → Parser Nat :=
  match limit with
  | 0 => fun fuel cs => do
    let (m, cs) ← setFront mode fuel cs
    setRest mode (fun _ _ => none) fuel m cs
  | limit + 1 => fun fuel cs => do
    let (m, cs) ← setFront mode fuel cs
    setRest mode (set mode limit) fuel m cs

end MockData.Regex
