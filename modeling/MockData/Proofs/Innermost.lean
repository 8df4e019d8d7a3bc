import MockData.Proofs.Leaps
import MockData.Proofs.Spans

/-!
The blocks of a text are its innermost pairs of braces: from an opening brace of the code to a
closing one, with no brace of the code between them.
-/
namespace MockData

open Script Text

theorem exists_place_cons {P : List α → α → Prop} {a : α} {as : List α} :
    (∃ front b back, a :: as = front ++ b :: back ∧ P front b) ↔
      P [] a ∨ ∃ front b back, as = front ++ b :: back ∧ P (a :: front) b := by
  constructor
  · rintro ⟨front, b, back, split, holds⟩
    cases front with
    | nil =>
      obtain rfl : a = b := (List.cons.inj split).1
      exact .inl holds
    | cons a' front =>
      obtain ⟨rfl, later⟩ := List.cons.inj split
      exact .inr ⟨front, b, back, later, holds⟩
  · rintro (holds | ⟨front, b, back, rfl, holds⟩)
    · exact ⟨[], a, as, rfl, holds⟩
    · exact ⟨a :: front, b, back, rfl, holds⟩

namespace Script

theorem isQuiet_eq_false_iff {m : Mode} {cs : List Char} : m.isQuiet cs = false ↔
    ∃ front c back, cs = front ++ c :: back ∧ isBrace c ∧ (m.run front).isCode := by
  induction cs generalizing m with
  | nil => simp [Mode.isQuiet]
  | cons c cs ih =>
    rw [exists_place_cons (P := fun front d => isBrace d ∧ (m.run front).isCode), Mode.isQuiet,
      Bool.and_eq_false_iff, ih]
    refine or_congr ?_ Iff.rfl
    rw [Bool.not_eq_false', Bool.and_eq_true, Mode.run_nil, and_comm]
    rfl

theorem next_of_isBrace {m : Mode} (code : m.isCode) {c : Char} (brace : isBrace c) :
    m.next c = .code := by
  simp only [isBrace, Bool.or_eq_true, beq_iff_eq] at brace
  rcases brace with rfl | rfl
  · exact Mode.next_of_isCode code (by decide) (by decide)
  · exact Mode.next_of_isCode code (by decide) (by decide)

theorem exists_last_brace {m : Mode} {cs : List Char} (loud : m.isQuiet cs = false) :
    ∃ front c held, cs = front ++ c :: held ∧ isBrace c ∧ (m.run front).isCode ∧
      Mode.code.isQuiet held := by
  induction cs generalizing m with
  | nil => cases loud
  | cons c cs ih =>
    cases tail : (m.next c).isQuiet cs with
    | false =>
      obtain ⟨front, d, held, rfl, brace, code, quiet⟩ := ih tail
      exact ⟨c :: front, d, held, rfl, brace, code, quiet⟩
    | true =>
      rw [Mode.isQuiet, tail, Bool.and_true, Bool.not_eq_false', Bool.and_eq_true] at loud
      obtain ⟨code, brace⟩ := loud
      rw [next_of_isBrace code brace] at tail
      exact ⟨[], c, cs, rfl, brace, code, tail⟩

end Script

namespace Block

namespace Scan

theorem mem_blocks_iff {s : Scan} {cs : List Char} {b : Block} : b ∈ s.blocks cs ↔
    ∃ front c back, cs = front ++ c :: back ∧ (s.run front).closes c = some b := by
  induction cs generalizing s with
  | nil => simp [blocks]
  | cons c cs ih =>
    rw [exists_place_cons (P := fun front d => (s.run front).closes d = some b), blocks]
    have later := ih (s := s.next c)
    cases closed : s.closes c with
    | none => simpa [closed] using later
    | some first => simpa [closed, eq_comm] using or_congr_right later

theorem Follows.run {done : List Char} {s : Scan} (follows : Follows done s) (cs : List Char) :
    Follows (done ++ cs) (s.run cs) := by
  induction cs generalizing done s with
  | nil => simpa using follows
  | cons c cs ih => simpa using ih (follows.next c)

theorem follows_run (cs : List Char) : Follows cs (start.run cs) := follows_start.run cs

theorem pending_run {front held : List Char} {c : Char} (brace : isBrace c)
    (code : (Mode.code.run front).isCode) (quiet : Mode.code.isQuiet held) :
    (start.run (front ++ c :: held)).pending =
      if c = '{' then some (byteSize front, ('{' :: held).reverse) else none := by
  have before := follows_run front
  rw [← before.mode_eq] at code
  have opened : (start.run front).next c = ⟨.code, byteSize front + c.utf8Size,
      if c = '{' then some (byteSize front, ['{']) else none⟩ := by
    rw [next, next_of_isBrace code brace, before.offset_eq, nextPending, code]
    simp only [isBrace, Bool.or_eq_true, beq_iff_eq] at brace
    rcases brace with rfl | rfl
    · simp [before.offset_eq]
    · simp
  have inside := (quiet_run (s := (start.run front).next c) (by rw [opened]; exact quiet)).2
  rw [run_append, run_cons, inside, opened]
  by_cases isOpening : c = '{'
  · simp [isOpening]
  · simp [isOpening]

/-- What is held for an open block begins with the latest brace of the code. -/
theorem pending_run_iff {cs : List Char} {p : Nat × List Char} :
    (start.run cs).pending = some p ↔ ∃ front held, cs = front ++ '{' :: held ∧
      p = (byteSize front, ('{' :: held).reverse) ∧ (Mode.code.run front).isCode ∧
      Mode.code.isQuiet held := by
  constructor
  · intro pending
    cases loud : Mode.code.isQuiet cs with
    | true =>
      rw [(quiet_run (s := start) loud).2] at pending
      cases pending
    | false =>
      obtain ⟨front, c, held, rfl, brace, code, quiet⟩ := exists_last_brace loud
      rw [pending_run brace code quiet] at pending
      split at pending
      · rename_i isOpening
        subst isOpening
        exact ⟨front, held, rfl, (Option.some.inj pending).symm, code, quiet⟩
      · cases pending
  · rintro ⟨front, held, rfl, rfl, code, quiet⟩
    rw [pending_run rfl code quiet, if_pos rfl]

theorem closes_eq_some_iff {s : Scan} {c : Char} {b : Block} : s.closes c = some b ↔
    c = '}' ∧ s.mode.isCode ∧ ∃ p, s.pending = some p ∧ b = ⟨p.1, ('}' :: p.2).reverse⟩ := by
  by_cases ends : s.mode.isCode && c == '}'
  · rw [closes, if_pos ends, Option.map_eq_some_iff]
    rw [Bool.and_eq_true, beq_iff_eq] at ends
    obtain ⟨code, rfl⟩ := ends
    simp [code, eq_comm]
  · rw [closes, if_neg ends]
    rw [Bool.and_eq_true, beq_iff_eq] at ends
    constructor
    · intro closed
      cases closed
    · rintro ⟨rfl, code, -⟩
      exact absurd ⟨code, rfl⟩ ends

end Scan

theorem run_braced {front held : List Char} (code : (Mode.code.run front).isCode) :
    Mode.code.run (front ++ '{' :: held) = Mode.code.run held := by
  rw [Mode.run_append, Mode.run_cons, next_of_isBrace code rfl]

theorem mem_scan_iff {text : List Char} {b : Block} : b ∈ scan text ↔
    ∃ front inner back, text = front ++ '{' :: (inner ++ '}' :: back) ∧
      b = ⟨byteSize front, '{' :: (inner ++ ['}'])⟩ ∧ (Mode.code.run front).isCode ∧
      Mode.code.isQuiet inner ∧ (Mode.code.run inner).isCode := by
  rw [scan, Scan.mem_blocks_iff]
  constructor
  · rintro ⟨read, c, back, rfl, closes⟩
    obtain ⟨rfl, ends, p, pending, rfl⟩ := Scan.closes_eq_some_iff.mp closes
    obtain ⟨front, inner, rfl, rfl, code, quiet⟩ := Scan.pending_run_iff.mp pending
    rw [(Scan.follows_run _).mode_eq, run_braced code] at ends
    exact ⟨front, inner, back, by simp, by simp, code, quiet, ends⟩
  · rintro ⟨front, inner, back, rfl, rfl, code, quiet, ends⟩
    refine ⟨front ++ '{' :: inner, '}', back, by simp, Scan.closes_eq_some_iff.mpr ⟨rfl, ?_, ?_⟩⟩
    · rw [(Scan.follows_run _).mode_eq, run_braced code, ends]
    · refine ⟨_, Scan.pending_run_iff.mpr ⟨front, inner, rfl, rfl, code, quiet⟩, ?_⟩
      simp

def range (b : Block) : Nat × Nat := (b.start, b.stop)

/-- An opening brace of the code at place `i` and a closing one at place `j` behind it, with no
brace of the code between them. -/
structure Innermost (text : List UInt8) (i j : Nat) : Prop where
  opening : CodeAt text i '{'.toUInt8
  closing : CodeAt text j '}'.toUInt8
  lt : i < j
  between : ∀ k, i < k → k < j → ¬ CodeAt text k '{'.toUInt8 ∧ ¬ CodeAt text k '}'.toUInt8

theorem exists_append_of_byteSize_le {a b c d : List Char} (split : a ++ b = c ++ d)
    (le : byteSize a ≤ byteSize c) : ∃ more, c = a ++ more ∧ b = more ++ d := by
  rcases List.append_eq_append_iff.mp split with found | ⟨more, rfl, rfl⟩
  · exact found
  · rw [byteSize_append] at le
    cases more with
    | nil => exact ⟨[], by simp, by simp⟩
    | cons x more =>
      have := byteSize_pos (List.cons_ne_nil x more)
      omega

theorem exists_cons_append_of_byteSize_lt {a b c d : List Char} {x y : Char}
    (split : a ++ x :: b = c ++ y :: d) (lt : byteSize a < byteSize c) :
    ∃ more, c = a ++ x :: more ∧ b = more ++ y :: d := by
  obtain ⟨more, rfl, rest⟩ := exists_append_of_byteSize_le split (by omega)
  cases more with
  | nil => simp at lt
  | cons z more =>
    obtain ⟨rfl, behind⟩ := List.cons.inj rest
    exact ⟨more, rfl, behind⟩

theorem byteSize_lt (a : List Char) (x : Char) (b : List Char) :
    byteSize a < byteSize (a ++ x :: b) := by
  have := byteSize_pos (List.cons_ne_nil x b)
  rw [byteSize_append]
  omega

theorem not_codeAt_between {front inner back : List Char} (code : (Mode.code.run front).isCode)
    (quiet : Mode.code.isQuiet inner) {c : Char} (brace : isBrace c) {k : Nat}
    (after : byteSize front < k) (before : k < byteSize (front ++ '{' :: inner)) :
    ¬ CodeAt (bytes (front ++ '{' :: (inner ++ '}' :: back))) k c.toUInt8 := by
  intro there
  obtain ⟨read, rest, split, rfl, code'⟩ := (codeAt_iff brace).mp there
  obtain ⟨more, rfl, split'⟩ := exists_cons_append_of_byteSize_lt split after
  rw [run_braced code] at code'
  have within : byteSize more < byteSize inner := by
    simp only [byteSize_append, byteSize] at before
    omega
  obtain ⟨held, rfl, -⟩ := exists_cons_append_of_byteSize_lt split'.symm within
  have loud := isQuiet_eq_false_iff.mpr ⟨more, c, held, rfl, brace, code'⟩
  rw [quiet] at loud
  cases loud

theorem innermost_iff {text : List Char} {i j : Nat} : Innermost (bytes text) i j ↔
    ∃ front inner back, text = front ++ '{' :: (inner ++ '}' :: back) ∧ byteSize front = i ∧
      byteSize (front ++ '{' :: inner) = j ∧ (Mode.code.run front).isCode ∧
      Mode.code.isQuiet inner ∧ (Mode.code.run inner).isCode := by
  constructor
  · intro innermost
    obtain ⟨front, rest, rfl, rfl, code⟩ := (codeAt_iff rfl).mp innermost.opening
    obtain ⟨read, back, split, rfl, ends⟩ := (codeAt_iff rfl).mp innermost.closing
    obtain ⟨inner, rfl, rfl⟩ := exists_cons_append_of_byteSize_lt split innermost.lt
    rw [run_braced code] at ends
    refine ⟨front, inner, back, rfl, rfl, rfl, code, ?_, ends⟩
    cases loud : Mode.code.isQuiet inner with
    | true => rfl
    | false =>
      obtain ⟨more, c, held, rfl, brace, code'⟩ := isQuiet_eq_false_iff.mp loud
      have there : CodeAt (bytes (front ++ '{' :: (more ++ c :: held ++ '}' :: back)))
          (byteSize (front ++ '{' :: more)) c.toUInt8 :=
        (codeAt_iff brace).mpr ⟨front ++ '{' :: more, held ++ '}' :: back, by simp, rfl,
          by rw [run_braced code, code']⟩
      have before := byteSize_lt (front ++ '{' :: more) c held
      have noBrace := innermost.between _ (byteSize_lt front '{' more) (by simpa using before)
      simp only [isBrace, Bool.or_eq_true, beq_iff_eq] at brace
      rcases brace with rfl | rfl
      · exact absurd there noBrace.1
      · exact absurd there noBrace.2
  · rintro ⟨front, inner, back, rfl, rfl, rfl, code, quiet, ends⟩
    exact {
      opening := (codeAt_iff rfl).mpr ⟨front, inner ++ '}' :: back, rfl, rfl, code⟩
      closing := (codeAt_iff rfl).mpr
        ⟨front ++ '{' :: inner, back, by simp, rfl, by rw [run_braced code, ends]⟩
      lt := byteSize_lt front '{' inner
      between := fun k after before => ⟨not_codeAt_between code quiet rfl after before,
        not_codeAt_between code quiet rfl after before⟩ }

theorem stop_braced (front inner : List Char) :
    stop ⟨byteSize front, '{' :: (inner ++ ['}'])⟩ = byteSize (front ++ '{' :: inner) + 1 := by
  have : '}'.utf8Size = 1 := rfl
  simp [stop, byteSize, this]
  omega

theorem range_mem_iff {text : List Char} {r : Nat × Nat} : r ∈ (scan text).map range ↔
    ∃ i j, r = (i, j + 1) ∧ Innermost (bytes text) i j := by
  simp only [List.mem_map, mem_scan_iff, innermost_iff]
  constructor
  · rintro ⟨b, ⟨front, inner, back, split, rfl, code, quiet, ends⟩, rfl⟩
    exact ⟨_, _, by rw [range, stop_braced], front, inner, back, split, rfl, rfl, code, quiet, ends⟩
  · rintro ⟨i, j, rfl, front, inner, back, split, rfl, rfl, code, quiet, ends⟩
    exact ⟨_, ⟨front, inner, back, split, rfl, code, quiet, ends⟩, by rw [range, stop_braced]⟩

theorem Scan.stop_of_closes {cs : List Char} {c : Char} {b : Block}
    (closes : (start.run cs).closes c = some b) : b.stop = byteSize (cs ++ [c]) := by
  obtain ⟨rfl, -, p, pending, rfl⟩ := closes_eq_some_iff.mp closes
  obtain ⟨front, held, rfl, rfl, -⟩ := pending_run_iff.mp pending
  simp [stop, byteSize]

theorem Scan.pairwise_stop (done cs : List Char) :
    ((start.run done).blocks cs).Pairwise fun a b => a.stop < b.stop := by
  induction cs generalizing done with
  | nil => exact .nil
  | cons c cs ih =>
    have next : (start.run done).next c = start.run (done ++ [c]) := by simp [run_append]
    have later := ih (done ++ [c])
    rw [blocks, next]
    cases closed : (start.run done).closes c with
    | none => exact later
    | some first =>
      refine List.pairwise_cons.mpr ⟨fun b member => ?_, later⟩
      obtain ⟨front, d, back, -, closes⟩ := mem_blocks_iff.mp member
      rw [← run_append] at closes
      rw [stop_of_closes closed, stop_of_closes closes]
      have before := byteSize_lt (done ++ [c] ++ front) d []
      simp only [byteSize_append] at before ⊢
      omega

theorem codeAt_unique {text : List UInt8} {i : Nat} {b c : UInt8} (here : CodeAt text i b)
    (here' : CodeAt text i c) : b = c := by
  obtain ⟨rest, there, -⟩ := here
  obtain ⟨rest', there', -⟩ := here'
  exact (List.cons.inj (there.symm.trans there')).1

theorem Innermost.apart {text : List UInt8} {i j i' j' : Nat} (first : Innermost text i j)
    (second : Innermost text i' j') (later : j < j') : j < i' := by
  rcases Nat.lt_trichotomy i' j with inside | same | behind
  · exact absurd first.closing (second.between j inside later).2
  · subst same
    cases codeAt_unique second.opening first.closing
  · exact behind

theorem pairwise_range (text : List Char) :
    ((scan text).map range).Pairwise fun a b => a.1 < b.1 ∧ a.2 ≤ b.1 := by
  rw [List.pairwise_map]
  refine (Scan.pairwise_stop [] text).imp_of_mem fun {a b} inA inB later => ?_
  obtain ⟨i, j, rangeA, first⟩ := range_mem_iff.mp (List.mem_map_of_mem (f := range) inA)
  obtain ⟨i', j', rangeB, second⟩ := range_mem_iff.mp (List.mem_map_of_mem (f := range) inB)
  obtain ⟨startA, stopA⟩ := Prod.mk.inj rangeA
  obtain ⟨startB, stopB⟩ := Prod.mk.inj rangeB
  have apart := first.apart second (by omega)
  have lt := first.lt
  simp only [range]
  omega

theorem slice_of_mem {text : String} {b : Block} (member : b ∈ scan text.toList) :
    (String.Pos.Raw.mk b.start).IsValid text ∧ (String.Pos.Raw.mk b.stop).IsValid text ∧
      slice? b.start b.stop text.toList = some b.text := by
  obtain ⟨front, inner, back, split, rfl, -⟩ := mem_scan_iff.mp member
  have whole : text.toList = front ++ ('{' :: (inner ++ ['}']) ++ back) := by simp [split]
  have ends : stop ⟨byteSize front, '{' :: (inner ++ ['}'])⟩ =
      byteSize (front ++ '{' :: (inner ++ ['}'])) := by rw [stop, byteSize_append]
  rw [ends]
  exact ⟨isValid_of_split whole, isValid_of_split (by rw [whole, List.append_assoc]),
    by rw [whole]; exact slice?_byteSize _ _ _⟩

/-- The blocks of a text are its innermost pairs of braces, in its order. -/
theorem scan_innermost (text : String) :
    (∀ r, r ∈ (scan text.toList).map range ↔
      ∃ i j, r = (i, j + 1) ∧ Innermost text.toUTF8.data.toList i j) ∧
    ((scan text.toList).map range).Pairwise (fun a b => a.1 < b.1 ∧ a.2 ≤ b.1) ∧
    ∀ b ∈ scan text.toList, b.start < b.stop ∧ b.stop ≤ text.utf8ByteSize ∧
      (String.Pos.Raw.mk b.start).IsValid text ∧ (String.Pos.Raw.mk b.stop).IsValid text ∧
      slice? b.start b.stop text.toList = some b.text := by
  refine ⟨fun r => ?_, pairwise_range text.toList, fun b member => ?_⟩
  · rw [toList_toUTF8]
    exact range_mem_iff
  · obtain ⟨start, stop, slice⟩ := slice_of_mem member
    obtain ⟨i, j, same, innermost⟩ := range_mem_iff.mp (List.mem_map_of_mem (f := range) member)
    obtain ⟨rfl, ends⟩ := Prod.mk.inj same
    have lt := innermost.lt
    exact ⟨by omega, stop.le_utf8ByteSize, start, stop, slice⟩

def awkwardText : String :=
  "\x7b a: \x7b b: '\x7d\\'é' /* \x7b */ \x7d // \x7d\n, c: \x7b\x7d \x7d \"\x7b"

theorem scan_innermost_awkward :
    (scan awkwardText.toList).map range = [(5, 27), (38, 40)] ∧
    Innermost awkwardText.toUTF8.data.toList 38 39 ∧
    (⟨5, "\x7b b: '\x7d\\'é' /* \x7b */ \x7d".toList⟩ : Block) ∈ scan awkwardText.toList ∧
    27 ≤ awkwardText.utf8ByteSize ∧ (String.Pos.Raw.mk 27).IsValid awkwardText := by
  have blocks : scan awkwardText.toList =
      [⟨5, "\x7b b: '\x7d\\'é' /* \x7b */ \x7d".toList⟩, ⟨38, "\x7b\x7d".toList⟩] := by
    decide +kernel
  have ranges : (scan awkwardText.toList).map range = [(5, 27), (38, 40)] := by
    rw [blocks]
    decide
  have member : ⟨5, "\x7b b: '\x7d\\'é' /* \x7b */ \x7d".toList⟩ ∈ scan awkwardText.toList := by
    rw [blocks]
    exact List.mem_cons_self
  obtain ⟨whole, -, inside⟩ := scan_innermost awkwardText
  obtain ⟨i, j, same, innermost⟩ := (whole (38, 40)).mp (by rw [ranges]; decide)
  obtain ⟨rfl, ends⟩ := Prod.mk.inj same
  obtain rfl : 39 = j := Nat.succ.inj ends
  obtain ⟨-, le, -, stop, -⟩ := inside _ member
  exact ⟨ranges, innermost, member, le, stop⟩

end Block

end MockData
