/-!
Paths. A path has parts between slashes. Repeated slashes and single dots do not count as parts,
but they count in the length of a path, so a path keeps them: `text_ofText`. What stands behind
the last part tells whether the path can only mean a directory.
-/
namespace MockData

inductive PathPart
  | up
  | name (s : String)
  deriving DecidableEq, Repr

def PathPart.text : PathPart → String
  | .up => ".."
  | .name s => s

inductive PathStart
  | nothing
  | dot
  | root
  deriving DecidableEq, Repr

def PathStart.text : PathStart → String
  | .nothing => ""
  | .dot => "."
  | .root => "/"

/-- A part with the slashes and single dots that lead to it. -/
structure PathStep where
  gap : String
  part : PathPart
  deriving DecidableEq, Repr

inductive PathEnd
  | bare
  | slash
  | dot
  deriving DecidableEq, Repr

/-- `steps` has the innermost part first; `tail` has the slashes and single dots behind it. -/
structure Path where
  start : PathStart
  steps : List PathStep
  tail : String
  deriving DecidableEq, Repr

namespace Path

def segments : List Char → List (List Char)
  | [] => [[]]
  | c :: cs =>
    if c = '/' then [] :: segments cs
    else match segments cs with
      | s :: rest => (c :: s) :: rest
      | [] => [[c]]

def part? (s : List Char) : Option PathPart :=
  if s = [] ∨ s = ['.'] then none
  else if s = ['.', '.'] then some .up
  else some (.name (String.ofList s))

def push (p : Path) (s : List Char) : Path :=
  match part? s with
  | some part => ⟨p.start, ⟨p.tail, part⟩ :: p.steps, ""⟩
  | none => ⟨p.start, p.steps, p.tail ++ String.ofList s⟩

def pushSlash (p : Path) (s : List Char) : Path :=
  push ⟨p.start, p.steps, p.tail ++ "/"⟩ s

/-- A single dot at the front is where the path starts from, not a gap. -/
def ofSegments : List (List Char) → Path
  | [] :: s :: rest => rest.foldl pushSlash (push ⟨.root, [], ""⟩ s)
  | s :: rest =>
    if s = ['.'] then rest.foldl pushSlash ⟨.dot, [], ""⟩
    else rest.foldl pushSlash (push ⟨.nothing, [], ""⟩ s)
  | [] => ⟨.nothing, [], ""⟩

def ofText (text : String) : Path := ofSegments (segments text.toList)

def textOfSteps : List PathStep → String
  | [] => ""
  | step :: above => textOfSteps above ++ step.gap ++ step.part.text

def text (p : Path) : String := p.start.text ++ textOfSteps p.steps ++ p.tail

def parts (p : Path) : List PathPart := p.steps.map (·.part)

def ending (p : Path) : PathEnd :=
  if p.tail = "" then .bare else if '.' ∈ p.tail.toList then .dot else .slash

def absolute (p : Path) : Bool := p.start = .root

def isEmpty (p : Path) : Bool := p.start = .nothing && p.steps = [] && p.tail = ""

def here : Path := ⟨.dot, [], ""⟩

def fileName? (p : Path) : Option String :=
  match p.parts with
  | .name s :: _ => some s
  | _ => none

def parent (p : Path) : Path := ⟨p.start, p.steps.tail, ""⟩

def withFileName (p : Path) (name : String) : Path :=
  let gap := if p.steps.tail = [] ∧ p.start ≠ .dot then "" else "/"
  ⟨p.start, ⟨gap, .name name⟩ :: p.steps.tail, ""⟩

def hasNul (p : Path) : Bool :=
  p.parts.any fun
    | .up => false
    | .name s => s.toList.any (· = '\x00')

def slashed : List (List Char) → List Char
  | [] => []
  | s :: rest => '/' :: (s ++ slashed rest)

theorem segments_eq (cs : List Char) :
    ∃ s rest, segments cs = s :: rest ∧ s ++ slashed rest = cs := by
  induction cs with
  | nil => exact ⟨[], [], rfl, rfl⟩
  | cons c cs ih =>
    obtain ⟨s, rest, e, h⟩ := ih
    by_cases hc : c = '/'
    · exact ⟨[], s :: rest, by simp [segments, hc, e], by simp [slashed, hc, h]⟩
    · exact ⟨c :: s, rest, by simp [segments, hc, e], by simp [h]⟩

theorem text_of_part? {s : List Char} {part : PathPart} (h : part? s = some part) :
    part.text = String.ofList s := by
  unfold part? at h
  split at h
  · cases h
  · split at h <;> cases h
    · next e => subst e; rfl
    · rfl

theorem text_push (p : Path) (s : List Char) : (p.push s).text = p.text ++ String.ofList s := by
  unfold push
  split
  · next h => simp [text, textOfSteps, text_of_part? h, String.append_assoc]
  · simp [text, String.append_assoc]

theorem text_foldl_pushSlash (segs : List (List Char)) (p : Path) :
    (segs.foldl pushSlash p).text = p.text ++ String.ofList (slashed segs) := by
  induction segs generalizing p with
  | nil => simp [slashed]
  | cons s rest ih =>
    rw [List.foldl_cons, ih, pushSlash, text_push]
    simp [text, slashed, String.append_assoc]

theorem text_ofText (t : String) : (ofText t).text = t := by
  obtain ⟨s, rest, e, h⟩ := segments_eq t.toList
  have ht : t = String.ofList s ++ String.ofList (slashed rest) := by
    rw [← String.ofList_append, h, String.ofList_toList]
  rw [ofText, e, ofSegments.eq_def]
  split
  · next r s' rest' h' =>
    cases h'
    rw [text_foldl_pushSlash, text_push, ht]
    simp [text, textOfSteps, PathStart.text, slashed, String.ext_iff]
  · next r rest' h' =>
    cases h'
    split
    · next hs =>
      subst hs
      rw [text_foldl_pushSlash, ht]
      simp [text, textOfSteps, PathStart.text]
    · rw [text_foldl_pushSlash, text_push, ht]
      simp [text, textOfSteps, PathStart.text]
  · next h' => cases h'

end Path

end MockData
