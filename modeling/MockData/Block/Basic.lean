import MockData.Script.Lexing
import MockData.Text.Measure

/-!
Innermost brace blocks of a module text: from an opening brace of the code to the closing one,
with no other brace of the code between them. A block keeps its text and the place where it
starts, in bytes.
-/
namespace MockData

open Script Text

structure Block where
  start : Nat
  text : List Char
  deriving DecidableEq, Repr

def Block.stop (b : Block) : Nat := b.start + byteSize b.text

namespace Block

/-- A scan under way. `pending` is the latest brace still open, with the characters from it on,
the last one first. -/
structure Scan where
  mode : Mode
  offset : Nat
  pending : Option (Nat × List Char)
  deriving DecidableEq, Repr

namespace Scan

def start : Scan := ⟨.code, 0, none⟩

/-- The characters held for an open block after one more. An opening brace of the code starts
afresh, a closing one ends the wait. -/
def nextPending (s : Scan) (c : Char) : Option (Nat × List Char) :=
  if s.mode.isCode && c == '{' then some (s.offset, ['{'])
  else if s.mode.isCode && c == '}' then none
  else s.pending.map fun p => (p.1, c :: p.2)

def next (s : Scan) (c : Char) : Scan :=
  ⟨s.mode.next c, s.offset + c.utf8Size, s.nextPending c⟩

def closes (s : Scan) (c : Char) : Option Block :=
  if s.mode.isCode && c == '}' then s.pending.map fun p => ⟨p.1, (c :: p.2).reverse⟩ else none

def run (s : Scan) (cs : List Char) : Scan := cs.foldl next s

def blocks (s : Scan) : List Char → List Block
  | [] => []
  | c :: cs => match s.closes c with
    | some b => b :: blocks (s.next c) cs
    | none => blocks (s.next c) cs

theorem run_append (s : Scan) (a b : List Char) : s.run (a ++ b) = (s.run a).run b :=
  List.foldl_append

theorem blocks_append (s : Scan) (a b : List Char) :
    s.blocks (a ++ b) = s.blocks a ++ (s.run a).blocks b := by
  induction a generalizing s with
  | nil => rfl
  | cons c a ih =>
    simp only [List.cons_append, blocks, run, List.foldl_cons]
    cases s.closes c <;> simp [ih, run]

end Scan

def scan (text : List Char) : List Block := Scan.start.blocks text

end Block

end MockData
