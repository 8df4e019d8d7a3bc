import MockData.Proofs.Innermost
import MockData.Proofs.Modules

/-!
Texts one behind the other. Behind a text that is complete another one is read as it is on its own,
and each part keeps the blocks it has. So what a pattern makes of one block has nothing to do with
the blocks around it.
-/
namespace MockData

open Script Text

namespace Script.Mode

theorem next_ne_slash {c : Char} (other : c ≠ '/') (m : Mode) : m.next c ≠ .slash := by
  have plain : fromCode c ≠ .slash := by
    rw [fromCode, if_neg other]
    split <;> simp
  cases m with
  | code => exact plain
  | slash =>
    rw [Mode.next, if_neg other]
    split
    · simp
    · exact plain
  | quoted q =>
    rw [Mode.next]
    split
    · simp
    · split <;> simp
  | escaped q => simp [Mode.next]
  | lineComment | blockComment =>
    rw [Mode.next]
    split <;> simp
  | star =>
    rw [Mode.next, if_neg other]
    split <;> simp

theorem Proper.run {m : Mode} (proper : m.Proper) (cs : List Char) : (m.run cs).Proper := by
  induction cs generalizing m with
  | nil => exact proper
  | cons c cs ih => exact ih (proper.next c)

theorem run_eq_code {cs : List Char} (code : (Mode.code.run cs).isCode)
    (noSlash : cs.getLast? ≠ some '/') : Mode.code.run cs = .code := by
  have apart : Mode.code.run cs ≠ .slash := by
    rcases List.eq_nil_or_concat cs with rfl | ⟨front, c, rfl⟩
    · nofun
    · have other : c ≠ '/' := by simpa using noSlash
      rw [List.concat_eq_append, run_append]
      exact next_ne_slash other _
  cases mode : Mode.code.run cs with
  | code => rfl
  | slash => exact absurd mode apart
  | quoted q | escaped q | lineComment | blockComment | star =>
    rw [mode] at code
    cases code

end Script.Mode

namespace Block

/-- Lexing the text ends outside of literals and comments, no slash at its end may open a comment,
and no brace of it is open: behind each opening brace of the code there is another brace. -/
structure Complete (cs : List Char) : Prop where
  outside : (Mode.code.run cs).isCode
  noSlash : cs.getLast? ≠ some '/'
  noneOpen : ∀ front held, cs = front ++ '{' :: held → (Mode.code.run front).isCode →
    ∃ inner c back, held = inner ++ c :: back ∧ isBrace c ∧
      (Mode.code.run (front ++ '{' :: inner)).isCode

theorem complete_iff {cs : List Char} : Complete cs ↔ Settles cs ∧ cs.getLast? ≠ some '/' := by
  rw [settles_iff, (Scan.follows_run cs).mode_eq]
  constructor
  · intro complete
    refine ⟨⟨Mode.run_eq_code complete.outside complete.noSlash, ?_⟩, complete.noSlash⟩
    refine Option.eq_none_iff_forall_ne_some.mpr fun p waiting => ?_
    obtain ⟨front, held, split, -, code, quiet⟩ := Scan.pending_run_iff.mp waiting
    obtain ⟨inner, c, back, rfl, brace, inCode⟩ := complete.noneOpen front held split code
    rw [run_braced code] at inCode
    have loud := isQuiet_eq_false_iff.mpr ⟨inner, c, back, rfl, brace, inCode⟩
    rw [quiet] at loud
    cases loud
  · rintro ⟨⟨mode, pending⟩, noSlash⟩
    refine ⟨by rw [mode]; rfl, noSlash, fun front held split code => ?_⟩
    have loud : Mode.code.isQuiet held = false := by
      refine Bool.eq_false_iff.mpr fun quiet => ?_
      rw [Scan.pending_run_iff.mpr ⟨front, held, split, rfl, code, quiet⟩] at pending
      cases pending
    obtain ⟨inner, c, back, rfl, brace, inCode⟩ := isQuiet_eq_false_iff.mp loud
    exact ⟨inner, c, back, rfl, brace, by rw [run_braced code, inCode]⟩

instance (cs : List Char) : Decidable (Settles cs) :=
  inferInstanceAs (Decidable (Scan.start.run cs = Scan.start.shift (byteSize cs)))

instance (cs : List Char) : Decidable (Complete cs) := decidable_of_iff _ complete_iff.symm

theorem settles_iff_scan_append {a : List Char} :
    Settles a ↔ ∀ b, scan (a ++ b) = scan a ++ (scan b).map (shift (byteSize a)) := by
  refine ⟨scan_append, fun apart => ?_⟩
  have count (b : List Char) : ((Scan.start.run a).blocks b).length = (scan b).length := by
    have whole := apart b
    rw [scan, Scan.blocks_append] at whole
    rw [List.append_cancel_left whole, List.length_map]
  rw [settles_iff]
  -- One text for each way not to settle: a literal or comment, an open brace, a slash.
  have pair := count ['{', '}']
  have closing := count ['}']
  have star := count ['*', '{', '}']
  have proper : (Scan.start.run a).mode.Proper := by
    rw [(Scan.follows_run a).mode_eq]
    exact Mode.Proper.run (m := .code) trivial a
  generalize Scan.start.run a = s at pair closing star proper
  obtain ⟨mode, place, held⟩ := s
  cases mode with
  | code =>
    refine ⟨rfl, ?_⟩
    cases held with
    | none => rfl
    | some p => cases closing
  | slash => cases star
  | quoted q =>
    simp only [Mode.Proper, isQuote, Bool.or_eq_true, decide_eq_true_eq] at proper
    rcases proper with (rfl | rfl) | rfl <;> cases pair
  | escaped q | lineComment | blockComment | star => cases pair

@[simp] theorem range_shift (k : Nat) (b : Block) :
    (b.shift k).range = (k + b.range.1, k + b.range.2) := by
  simp [range, stop, shift, Nat.add_assoc]

end Block

def MatchedBlock.shift (k : Nat) (b : MatchedBlock) : MatchedBlock :=
  { b with block := b.block.shift k }

theorem MatchedBlock.shift_shift (k l : Nat) (b : MatchedBlock) :
    (b.shift l).shift k = b.shift (k + l) := by
  simp [shift, Block.shift, Nat.add_assoc]

namespace Extraction

theorem found?_shift (p : BlockPattern) (k : Nat) (b : Block) :
    found? p (b.shift k) = (found? p b).map (MatchedBlock.shift k) := by
  rw [found?, found?, Option.map_map, Block.text_shift]
  rfl

theorem ofText_append {a : String} (settles : Block.Settles a.toList) (p : BlockPattern)
    (b : String) :
    (ofText p (a ++ b)).blocks =
        (ofText p a).blocks ++ (ofText p b).blocks.map (.shift a.utf8ByteSize) ∧
      (ofText p (a ++ b)).skipped = (ofText p a).skipped + (ofText p b).skipped := by
  have scanned := Block.scan_append settles b.toList
  rw [← utf8ByteSize_eq] at scanned
  constructor
  · simp only [ofText, blocks_eq, String.toList_append, scanned, List.filterMap_append,
      List.filterMap_map, List.map_filterMap]
    congr 2
    funext c
    exact found?_shift p a.utf8ByteSize c
  · simp only [ofText, skipped_ofBlocks, String.toList_append, scanned, List.map_append,
      List.countP_append, List.map_map]
    rfl

/-- Behind a complete text the blocks of another are those it has on its own, moved, and a pattern
finds the same values in them. What stands between two texts and is complete, but matches nowhere,
takes nothing from either. -/
theorem ofText_append_complete {a : String} (complete : Block.Complete a.toList) (b : String) :
    (Block.scan (a ++ b).toList).map Block.range =
        (Block.scan a.toList).map Block.range ++ ((Block.scan b.toList).map Block.range).map
          (fun r => (a.utf8ByteSize + r.1, a.utf8ByteSize + r.2)) ∧
      ∀ p, (ofText p (a ++ b)).blocks =
          (ofText p a).blocks ++ (ofText p b).blocks.map (.shift a.utf8ByteSize) ∧
        (ofText p (a ++ b)).skipped = (ofText p a).skipped + (ofText p b).skipped ∧
        ∀ bad : String, Block.Complete bad.toList → (ofText p bad).blocks = [] →
          (ofText p (a ++ bad ++ b)).blocks = (ofText p a).blocks ++
              (ofText p b).blocks.map (.shift (a.utf8ByteSize + bad.utf8ByteSize)) ∧
            (ofText p (a ++ bad ++ b)).skipped =
              (ofText p a).skipped + (ofText p bad).skipped + (ofText p b).skipped := by
  have settles := (Block.complete_iff.mp complete).1
  refine ⟨?_, fun p => ⟨(ofText_append settles p b).1, (ofText_append settles p b).2, ?_⟩⟩
  · rw [String.toList_append, Block.scan_append settles, List.map_append, List.map_map,
      List.map_map, utf8ByteSize_eq]
    congr 2
    funext c
    exact Block.range_shift _ c
  · intro bad completeBad noBlocks
    obtain ⟨blocks, skipped⟩ := ofText_append settles p (bad ++ b)
    obtain ⟨blocksBad, skippedBad⟩ := ofText_append (Block.complete_iff.mp completeBad).1 p b
    rw [String.append_assoc, blocks, skipped, blocksBad, skippedBad, noBlocks, List.nil_append,
      List.map_map]
    refine ⟨?_, (Nat.add_assoc ..).symm⟩
    congr 2
    funext c
    exact MatchedBlock.shift_shift _ _ c

/-- A block without the field, though a string in it looks like one, between two that have it. -/
theorem ofText_append_complete_lacking :
    let p : BlockPattern := ⟨[⟨"id", .text⟩], List.cons_ne_nil _ _⟩
    let a := "[\x7b id: \"é\", note: '\x7d' /* \x7b */ \x7d, // \x7b\n"
    let bad := "\x7b name: \"id: 7\" \x7d,"
    let b := "\x7b id: \"B\" \x7d]"
    Block.Complete a.toList ∧ Block.Complete bad.toList ∧ (ofText p bad).blocks = [] ∧
      (ofText p (a ++ bad ++ b)).blocks.map (fun m => (m.block.range, m.text? "id")) =
        [((1, 32), some "é"), ((57, 68), some "B")] ∧
      (ofText p (a ++ bad ++ b)).skipped = 1 := by
  intro p a bad b
  have complete : Block.Complete a.toList := by decide +kernel
  have completeBad : Block.Complete bad.toList := by decide +kernel
  have noBlocks : (ofText p bad).blocks = [] := List.isEmpty_iff.mp (by decide +kernel)
  obtain ⟨blocks, skipped⟩ := ((ofText_append_complete complete b).2 p).2.2 bad completeBad noBlocks
  refine ⟨complete, completeBad, noBlocks, ?_, ?_⟩
  · rw [blocks]
    decide +kernel
  · rw [skipped]
    decide +kernel

end Extraction

end MockData
