import MockData.Proofs.Blocks

/-!
Where the blocks of a text stand: each at its offset, between two braces, and in code.
-/
namespace MockData.Block

open Script Text

/-- The scan of a text up to here. What it holds for an open block is the end of that text. -/
structure Scan.Follows (done : List Char) (s : Scan) : Prop where
  mode_eq : s.mode = Mode.code.run done
  offset_eq : s.offset = byteSize done
  pending : ∀ p, s.pending = some p → ∃ front held, done = front ++ '{' :: held ∧
    p = (byteSize front, ('{' :: held).reverse) ∧ (Mode.code.run front).isCode

namespace Scan

theorem follows_start : Follows [] start := ⟨rfl, rfl, fun _ pends => by cases pends⟩

theorem Follows.next {done : List Char} {s : Scan} (follows : Follows done s) (c : Char) :
    Follows (done ++ [c]) (s.next c) where
  mode_eq := by
    rw [Mode.run_append, ← follows.mode_eq]
    rfl
  offset_eq := by simp [Scan.next, follows.offset_eq, byteSize]
  pending := by
    intro p pends
    by_cases opens : s.mode.isCode && c == '{'
    · obtain rfl : (s.offset, ['{']) = p := by simpa [Scan.next, nextPending, opens] using pends
      simp only [Bool.and_eq_true, beq_iff_eq] at opens
      refine ⟨done, [], by rw [opens.2], by rw [follows.offset_eq]; rfl, ?_⟩
      rw [← follows.mode_eq, opens.1]
    · by_cases ends : s.mode.isCode && c == '}'
      · simp [Scan.next, nextPending, opens, ends] at pends
      · obtain ⟨q, pends', rfl⟩ : ∃ q, s.pending = some q ∧ (q.1, c :: q.2) = p := by
          simpa [Scan.next, nextPending, opens, ends] using pends
        obtain ⟨front, held, split, rfl, code⟩ := follows.pending q pends'
        exact ⟨front, held ++ [c], by simp [split], by simp, code⟩

theorem Follows.exists_of_mem {done : List Char} {s : Scan} (follows : Follows done s)
    {cs : List Char} {b : Block} (member : b ∈ s.blocks cs) :
    ∃ front inner back, done ++ cs = front ++ '{' :: (inner ++ '}' :: back) ∧
      b = ⟨byteSize front, '{' :: (inner ++ ['}'])⟩ ∧ (Mode.code.run front).isCode := by
  induction cs generalizing done s with
  | nil => cases member
  | cons c cs ih =>
    have later (member : b ∈ (s.next c).blocks cs) : ∃ front inner back,
        done ++ c :: cs = front ++ '{' :: (inner ++ '}' :: back) ∧
          b = ⟨byteSize front, '{' :: (inner ++ ['}'])⟩ ∧ (Mode.code.run front).isCode := by
      obtain ⟨front, inner, back, split, rest⟩ := ih (follows.next c) member
      exact ⟨front, inner, back, by simpa using split, rest⟩
    -- The block ends with this character, and so it is the one that is held, or it ends later.
    cases closed : s.closes c with
    | none =>
      rw [blocks, closed] at member
      exact later member
    | some first =>
      rw [blocks, closed] at member
      rcases List.mem_cons.mp member with rfl | member
      · by_cases ends : s.mode.isCode && c == '}'
        · obtain ⟨p, pends, rfl⟩ : ∃ p, s.pending = some p ∧ ⟨p.1, (c :: p.2).reverse⟩ = b := by
            simpa [closes, ends] using closed
          obtain ⟨front, held, split, rfl, code⟩ := follows.pending p pends
          simp only [Bool.and_eq_true, beq_iff_eq] at ends
          exact ⟨front, held, cs, by simp [split, ends.2], by simp [ends.2], code⟩
        · simp [closes, ends] at closed
      · exact later member

end Scan

theorem exists_of_mem_scan {text : List Char} {b : Block} (member : b ∈ scan text) :
    ∃ front inner back, text = front ++ '{' :: (inner ++ '}' :: back) ∧
      b = ⟨byteSize front, '{' :: (inner ++ ['}'])⟩ ∧ (Mode.code.run front).isCode :=
  Scan.follows_start.exists_of_mem member

end MockData.Block
