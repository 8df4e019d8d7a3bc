import MockData.Block.Basic
import MockData.Field.Matching

/-!
Patterns of fields that a block carries in a given order, and what a text yields when each of its
blocks is held against one. Anything may stand between the fields. A block that lacks a field, or
has it too early, is skipped.
-/
namespace MockData

inductive PatternError
  | noFields
  deriving DecidableEq, Repr

def PatternError.message : PatternError → String
  | .noFields => "block pattern has no fields"

structure BlockPattern where
  fields : List Field
  fields_ne_nil : fields ≠ []

abbrev Values := List (String × FieldValue)

namespace BlockPattern

def ofFields? (fields : List Field) : Except PatternError BlockPattern :=
  if h : fields = [] then .error .noFields else .ok ⟨fields, h⟩

/-- Finds the fields one after the other, each from where the one before it ends. -/
def matchFields : List Field → (before : Option Char) → List Char → Option Values
  | [], _, _ => some []
  | f :: fs, before, cs => do
    let (capture, rest) ← Field.search f.name.toList f.kind before cs
    let value ← capture.value?
    let values ← matchFields fs capture.last? rest
    return (f.name, value) :: values

def matchText (p : BlockPattern) (text : List Char) : Option Values :=
  matchFields p.fields none text

end BlockPattern

structure MatchedBlock where
  block : Block
  values : Values

namespace MatchedBlock

def get? (b : MatchedBlock) (name : String) : Option FieldValue :=
  (b.values.find? (·.1 = name)).map (·.2)

def text? (b : MatchedBlock) (name : String) : Option String := (b.get? name).bind FieldValue.text?

end MatchedBlock

/-- What a text yields: the blocks that match, in its order, and how many do not. -/
structure Extraction where
  blocks : List MatchedBlock
  skipped : Nat

namespace Extraction

def add (p : BlockPattern) (b : Block) (later : Extraction) : Extraction :=
  match p.matchText b.text with
  | some values => { later with blocks := ⟨b, values⟩ :: later.blocks }
  | none => { later with skipped := later.skipped + 1 }

def ofBlocks (p : BlockPattern) (bs : List Block) : Extraction := bs.foldr (add p) ⟨[], 0⟩

def ofText (p : BlockPattern) (text : String) : Extraction := ofBlocks p (Block.scan text.toList)

def found? (p : BlockPattern) (b : Block) : Option MatchedBlock :=
  (p.matchText b.text).map (⟨b, ·⟩)

theorem blocks_eq (p : BlockPattern) (bs : List Block) :
    (ofBlocks p bs).blocks = bs.filterMap (found? p) := by
  induction bs with
  | nil => rfl
  | cons b bs ih =>
    have step : ofBlocks p (b :: bs) = add p b (ofBlocks p bs) := rfl
    rw [step, add, List.filterMap_cons, found?]
    cases p.matchText b.text with
    | some values => exact congrArg (_ :: ·) ih
    | none => exact ih

theorem length_add_skipped (p : BlockPattern) (bs : List Block) :
    (ofBlocks p bs).blocks.length + (ofBlocks p bs).skipped = bs.length := by
  induction bs with
  | nil => rfl
  | cons b bs ih =>
    simp only [ofBlocks, List.foldr_cons, add] at ih ⊢
    split <;> simp only [List.length_cons] <;> omega

end Extraction

end MockData
