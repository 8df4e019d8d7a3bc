import MockData.Proofs.Quoting

/-!
Texts as sixteen-bit units, and what units without regard to their origin decode to: a surrogate
that has no partner is replaced, and takes nothing along. Joining the pieces of a literal is this
decoding.
-/
namespace MockData.Text

/-- The units of a code point: its number up to U+FFFF, a high and a low surrogate beyond. -/
def unitsOfNat (n : Nat) : List Nat :=
  if n < 0x10000 then [n] else [0xD800 + (n - 0x10000) / 0x400, 0xDC00 + (n - 0x10000) % 0x400]

def unitsOf (c : Char) : List Nat := unitsOfNat c.toNat

def units (cs : List Char) : List Nat := cs.flatMap unitsOf

def isPaired (n : Nat) (later : List Nat) : Bool :=
  isHighSurrogate n && later.head?.any isLowSurrogate

inductive Decodes : List Nat → List Char → Prop
  | nil : Decodes [] []
  | char (c : Char) {us : List Nat} {cs : List Char} (later : Decodes us cs) :
      Decodes (unitsOf c ++ us) (c :: cs)
  | lone {n : Nat} {us : List Nat} {cs : List Char}
      (surrogate : isHighSurrogate n ∨ isLowSurrogate n) (unpaired : isPaired n us = false)
      (later : Decodes us cs) : Decodes (n :: us) (replacement :: cs)

theorem decodes_units (cs : List Char) : Decodes (units cs) cs := by
  induction cs with
  | nil => exact .nil
  | cons c cs ih => exact .char c ih

theorem isLowSurrogate_of_isHighSurrogate {n : Nat} (isHigh : isHighSurrogate n) :
    isLowSurrogate n = false := by
  simp only [isHighSurrogate, Bool.and_eq_true, decide_eq_true_eq] at isHigh
  simp [isLowSurrogate]
  omega

theorem unitsOf_cases (c : Char) :
    (unitsOf c = [c.toNat] ∧ isHighSurrogate c.toNat = false ∧ isLowSurrogate c.toNat = false) ∨
    ∃ high low, unitsOf c = [high, low] ∧ isHighSurrogate high ∧ isLowSurrogate low ∧
      ofSurrogates high low = c := by
  have valid : c.toNat.isValidChar := c.valid
  simp only [Nat.isValidChar] at valid
  by_cases small : c.toNat < 0x10000
  · refine .inl ⟨if_pos small, ?_, ?_⟩
    · simp [isHighSurrogate]
      omega
    · simp [isLowSurrogate]
      omega
  · refine .inr ⟨_, _, if_neg small, ?_, ?_, ?_⟩
    · simp [isHighSurrogate]
      omega
    · simp [isLowSurrogate]
      omega
    · have number : 0x10000 + (0xD800 + (c.toNat - 0x10000) / 0x400 - 0xD800) * 0x400 +
          (0xDC00 + (c.toNat - 0x10000) % 0x400 - 0xDC00) = c.toNat := by omega
      rw [ofSurrogates, number, Char.ofNat_toNat]

theorem lt_of_mem_unitsOf {c : Char} {n : Nat} (member : n ∈ unitsOf c) : n < 0x10000 := by
  have valid : c.toNat.isValidChar := c.valid
  simp only [Nat.isValidChar] at valid
  rw [unitsOf, unitsOfNat] at member
  split at member
  · rename_i small
    obtain rfl := List.mem_singleton.mp member
    exact small
  · simp only [List.mem_cons, List.not_mem_nil, or_false] at member
    omega

theorem unitsOf_ofSurrogates {high low : Nat} (isHigh : isHighSurrogate high)
    (isLow : isLowSurrogate low) : unitsOf (ofSurrogates high low) = [high, low] := by
  simp only [isHighSurrogate, isLowSurrogate, Bool.and_eq_true, decide_eq_true_eq] at isHigh isLow
  have valid : (0x10000 + (high - 0xD800) * 0x400 + (low - 0xDC00)).isValidChar := by
    simp only [Nat.isValidChar]
    omega
  have number : (ofSurrogates high low).toNat =
      0x10000 + (high - 0xD800) * 0x400 + (low - 0xDC00) := by
    rw [ofSurrogates, Char.ofNat, dif_pos valid]
    rfl
  rw [unitsOf, unitsOfNat, number, if_neg (by omega), List.cons.injEq, List.cons.injEq]
  exact ⟨by omega, by omega, rfl⟩

theorem unitsOf_ofUnit {n : Nat} (small : n < 0x10000) (notHigh : isHighSurrogate n = false)
    (notLow : isLowSurrogate n = false) : unitsOf (ofUnit n) = [n] := by
  have valid : n.isValidChar := by
    simp only [isHighSurrogate, isLowSurrogate, Bool.and_eq_false_iff,
      decide_eq_false_iff_not] at notHigh notLow
    simp only [Nat.isValidChar]
    omega
  have number : (ofUnit n).toNat = n := by
    rw [ofUnit, dif_pos valid]
    rfl
  rw [unitsOf, unitsOfNat, number, if_pos small]

theorem decodes_unpaired {n : Nat} {us : List Nat} {cs : List Char} (small : n < 0x10000)
    (unpaired : isPaired n us = false) (later : Decodes us cs) :
    Decodes (n :: us) (ofUnit n :: cs) := by
  by_cases surrogate : isHighSurrogate n ∨ isLowSurrogate n
  · rw [ofUnit_of_surrogate surrogate]
    exact .lone surrogate unpaired later
  · simp only [not_or, Bool.not_eq_true] at surrogate
    have one := Decodes.char (ofUnit n) later
    rwa [unitsOf_ofUnit small surrogate.1 surrogate.2] at one

end MockData.Text

namespace MockData.Script

open Text

def Piece.units : Piece → List Nat
  | .char c => unitsOf c
  | .unit n => [n]

theorem joinUnits_unpaired {n : Nat} {ps : List Piece}
    (unpaired : isPaired n (ps.flatMap Piece.units) = false) :
    joinUnits (.unit n :: ps) = ofUnit n :: joinUnits ps := by
  match ps with
  | [] => rfl
  | .char c :: ps => rfl
  | .unit m :: ps =>
    have apart : (isHighSurrogate n && isLowSurrogate m) = false := by
      simpa [isPaired, Piece.units] using unpaired
    rw [joinUnits, if_neg (by simp [apart])]

theorem joinUnits_unitsOf (c : Char) (us : List Nat) :
    joinUnits ((unitsOf c ++ us).map .unit) = c :: joinUnits (us.map .unit) := by
  rcases unitsOf_cases c with ⟨one, notHigh, -⟩ | ⟨high, low, two, isHigh, isLow, joined⟩
  · have unpaired : isPaired c.toNat ((us.map Piece.unit).flatMap Piece.units) = false := by
      simp [isPaired, notHigh]
    rw [one, List.cons_append, List.nil_append, List.map_cons, joinUnits_unpaired unpaired,
      ofUnit_toNat]
  · simp [two, joinUnits, isHigh, isLow, joined]

theorem flatMap_units_map_unit (us : List Nat) : (us.map Piece.unit).flatMap Piece.units = us := by
  induction us with
  | nil => rfl
  | cons n us ih => rw [List.map_cons, List.flatMap_cons, ih, Piece.units, List.singleton_append]

theorem joinUnits_of_decodes {us : List Nat} {cs : List Char} (decodes : Decodes us cs) :
    joinUnits (us.map .unit) = cs := by
  induction decodes with
  | nil => rfl
  | char c later ih => rw [joinUnits_unitsOf, ih]
  | @lone n us cs surrogate unpaired later ih =>
    rw [← flatMap_units_map_unit us] at unpaired
    rw [List.map_cons, joinUnits_unpaired unpaired, ih, ofUnit_of_surrogate surrogate]

theorem units_injective {cs ds : List Char} (same : units cs = units ds) : cs = ds := by
  rw [← joinUnits_of_decodes (decodes_units cs), same, joinUnits_of_decodes (decodes_units ds)]

theorem decodes_joinUnits {ps : List Piece}
    (small : ∀ n ∈ ps.flatMap Piece.units, n < 0x10000) :
    Decodes (ps.flatMap Piece.units) (joinUnits ps) := by
  fun_induction joinUnits ps with
  | case1 => exact .nil
  | case2 c ps ih => exact .char c (ih fun n member => small n (by simp [member]))
  | case3 n =>
    have first : n < 0x10000 := small n (by simp [Piece.units])
    have unpaired : isPaired n [] = false := by simp [isPaired]
    exact decodes_unpaired first unpaired .nil
  | case4 n c ps ih =>
    have first : n < 0x10000 := small n (by simp [Piece.units])
    have later := Decodes.char c (ih fun m member => small m (by simp [member]))
    refine decodes_unpaired first ?_ later
    rcases unitsOf_cases c with ⟨one, -, notLow⟩ | ⟨high, low, two, isHigh, -, -⟩
    · simp [isPaired, Piece.units, one, notLow]
    · have notLow : isLowSurrogate high = false := isLowSurrogate_of_isHighSurrogate isHigh
      simp [isPaired, Piece.units, two, notLow]
  | case5 n m ps isPair ih =>
    obtain ⟨isHigh, isLow⟩ : isHighSurrogate n ∧ isLowSurrogate m := by simpa using isPair
    have pair := Decodes.char (ofSurrogates n m)
      (ih fun k member => small k (by simp [member]))
    rwa [unitsOf_ofSurrogates isHigh isLow] at pair
  | case6 n m ps notPair ih =>
    have first : n < 0x10000 := small n (by simp [Piece.units])
    refine decodes_unpaired first ?_ (ih fun k member => small k (by simp_all))
    simpa [isPaired, Piece.units] using notPair

end MockData.Script
