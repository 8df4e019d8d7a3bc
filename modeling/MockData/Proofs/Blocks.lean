import MockData.Block.Basic
import MockData.Proofs.Lexing

/-!
What a scan finds in a text that is put together from pieces. A piece that passes adds no block, a
pair of braces around one adds a single block, and what stands before only moves the later blocks.
-/
namespace MockData

open Script Text

namespace Block

def shift (k : Nat) (b : Block) : Block := { b with start := k + b.start }

@[simp] theorem text_shift (k : Nat) (b : Block) : (b.shift k).text = b.text := rfl

namespace Scan

def shift (k : Nat) (s : Scan) : Scan :=
  ⟨s.mode, k + s.offset, s.pending.map fun p => (k + p.1, p.2)⟩

theorem next_shift (k : Nat) (s : Scan) (c : Char) : (s.shift k).next c = (s.next c).shift k := by
  by_cases opens : s.mode.isCode && c == '{'
  · simp only [next, shift, nextPending, opens, ↓reduceIte, Option.map_some, Nat.add_assoc]
  · by_cases ends : s.mode.isCode && c == '}'
    · simp only [next, shift, nextPending, opens, ends, ↓reduceIte, Nat.add_assoc]
      rfl
    · simp only [next, shift, nextPending, opens, ends, Bool.false_eq_true, ↓reduceIte,
        Option.map_map, Function.comp_def, Nat.add_assoc]

theorem closes_shift (k : Nat) (s : Scan) (c : Char) :
    (s.shift k).closes c = (s.closes c).map (Block.shift k) := by
  by_cases ends : s.mode.isCode && c == '}'
  · simp only [closes, shift, ends, ↓reduceIte, Option.map_map]
    rfl
  · simp only [closes, shift, ends]
    rfl

theorem blocks_shift (k : Nat) (s : Scan) (cs : List Char) :
    (s.shift k).blocks cs = (s.blocks cs).map (Block.shift k) := by
  induction cs generalizing s with
  | nil => rfl
  | cons c cs ih =>
    simp only [blocks, closes_shift, next_shift]
    cases s.closes c with
    | none => simp [ih]
    | some b => simp [ih]

@[simp] theorem run_nil (s : Scan) : s.run [] = s := rfl

@[simp] theorem run_cons (s : Scan) (c : Char) (cs : List Char) :
    s.run (c :: cs) = (s.next c).run cs := rfl

theorem offset_run (s : Scan) (cs : List Char) : (s.run cs).offset = s.offset + byteSize cs := by
  induction cs generalizing s with
  | nil => rfl
  | cons c cs ih => rw [run_cons, ih, next, byteSize, Nat.add_assoc]

theorem quiet_run {s : Scan} {cs : List Char} (quiet : s.mode.isQuiet cs) :
    s.blocks cs = [] ∧ s.run cs = ⟨s.mode.run cs, s.offset + byteSize cs,
      s.pending.map fun p => (p.1, cs.reverse ++ p.2)⟩ := by
  induction cs generalizing s with
  | nil => simp [blocks, byteSize]
  | cons c cs ih =>
    simp only [Mode.isQuiet, Bool.and_eq_true, Bool.not_eq_true', Bool.and_eq_false_imp] at quiet
    obtain ⟨noBrace, quiet⟩ := quiet
    have stays : s.nextPending c = s.pending.map fun p => (p.1, c :: p.2) := by
      simp only [nextPending]
      cases code : s.mode.isCode <;> simp_all
    have unclosed : s.closes c = none := by
      simp only [closes]
      cases code : s.mode.isCode <;> simp_all
    have later := ih (s := s.next c) quiet
    refine ⟨by simp only [blocks, unclosed, later.1], ?_⟩
    rw [run_cons, later.2]
    simp [next, stays, byteSize, Option.map_map, Function.comp_def, Nat.add_assoc]

theorem length_blocks_le (s : Scan) (cs : List Char) : (s.blocks cs).length ≤ cs.length := by
  induction cs generalizing s with
  | nil => exact Nat.le_refl 0
  | cons c cs ih =>
    have later := ih (s.next c)
    rw [blocks]
    cases s.closes c with
    | none => simp only [List.length_cons]; omega
    | some b => simp only [List.length_cons]; omega

end Scan

/-- A scan of the text ends in code, and no brace is open then. -/
def Settles (cs : List Char) : Prop := Scan.start.run cs = Scan.start.shift (byteSize cs)

theorem settles_iff {cs : List Char} : Settles cs ↔
    (Scan.start.run cs).mode = .code ∧ (Scan.start.run cs).pending = none := by
  have offset := Scan.offset_run .start cs
  rw [Settles]
  generalize Scan.start.run cs = s at offset
  obtain ⟨mode, place, held⟩ := s
  simp only [Scan.start] at offset
  simp [Scan.shift, Scan.start, offset]

theorem scan_append {a : List Char} (settles : Settles a) (b : List Char) :
    scan (a ++ b) = scan a ++ (scan b).map (shift (byteSize a)) := by
  rw [scan, Scan.blocks_append, show Scan.start.run a = _ from settles, Scan.blocks_shift]
  rfl

theorem scan_passes {a : List Char} (passes : Passes a) (b : List Char) :
    scan (a ++ b) = (scan b).map (shift (byteSize a)) := by
  have before := Scan.quiet_run (s := .start) passes.quiet
  have moved : Scan.start.run a = Scan.start.shift (byteSize a) := by
    rw [before.2]
    simp [Scan.start, Scan.shift, passes.run_code]
  rw [scan_append moved, scan, before.1, List.nil_append]

theorem scan_braced {inner : List Char} (passes : Passes inner) (b : List Char) :
    scan ('{' :: (inner ++ '}' :: b)) = ⟨0, '{' :: (inner ++ ['}'])⟩ ::
      (scan b).map (shift (byteSize ('{' :: (inner ++ ['}'])))) := by
  have opened : Scan.start.next '{' = ⟨.code, byteSize ['{'], some (0, ['{'])⟩ := rfl
  have inside := Scan.quiet_run (s := ⟨.code, byteSize ['{'], some (0, ['{'])⟩) passes.quiet
  have closed : ((Scan.start.next '{').run inner).next '}' =
      Scan.start.shift (byteSize ('{' :: (inner ++ ['}']))) := by
    rw [opened, inside.2]
    simp [passes.run_code, Scan.next, Scan.nextPending, Mode.isCode, Mode.next, Mode.fromCode,
      isQuote, Scan.shift, Scan.start, byteSize, Nat.add_assoc]
  have ends : ((Scan.start.next '{').run inner).closes '}' =
      some ⟨0, '{' :: (inner ++ ['}'])⟩ := by
    rw [opened, inside.2]
    simp [passes.run_code, Scan.closes, Mode.isCode]
  have quietStart : Scan.start.closes '{' = none := rfl
  have quietInside : (Scan.start.next '{').blocks inner = [] := by rw [opened]; exact inside.1
  simp only [scan, Scan.blocks, quietStart, Scan.blocks_append, quietInside, List.nil_append, ends,
    closed, Scan.blocks_shift]

def texts (cs : List Char) : List (List Char) := (scan cs).map Block.text

theorem texts_passes {a : List Char} (passes : Passes a) (b : List Char) :
    texts (a ++ b) = texts b := by
  rw [texts, scan_passes passes, List.map_map]
  rfl

theorem texts_braced {inner : List Char} (passes : Passes inner) (b : List Char) :
    texts ('{' :: (inner ++ '}' :: b)) = ('{' :: (inner ++ ['}'])) :: texts b := by
  rw [texts, scan_braced passes, List.map_cons, List.map_map]
  rfl

end Block

end MockData
