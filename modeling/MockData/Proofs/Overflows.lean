import MockData.Proofs.Kinds

/-!
Whole numbers as a field takes them. A field admits the digits of every script, but only those of
ASCII are read as a number: for any other digits the value is the greatest there is, and this is
the number they denote only if it is too great.
-/
namespace MockData

open Text MockData.Field

namespace Field.Capture

def saturatedValue (ds : List Char) : UInt64 :=
  UInt64.ofNat (min (decimalValue ds) (UInt64.size - 1))

theorem ofNat_eq_greatest_iff {n : Nat} (small : n < UInt64.size) :
    UInt64.ofNat (UInt64.size - 1) = UInt64.ofNat n ↔ UInt64.size - 1 ≤ n := by
  have greatest : (UInt64.ofNat (UInt64.size - 1)).toNat = UInt64.size - 1 := rfl
  rw [← UInt64.toNat_inj, greatest, UInt64.toNat_ofNat_of_lt' small]
  omega

theorem unsignedValue_of_isAsciiDigit {ds : List Char} (ascii : ∀ c ∈ ds, isAsciiDigit c) :
    unsignedValue ds = saturatedValue ds := by
  have all : ds.all isAsciiDigit := List.all_eq_true.mpr ascii
  rw [unsignedValue, saturatedValue]
  by_cases small : decimalValue ds < UInt64.size
  · rw [if_pos ⟨all, small⟩, Nat.min_eq_left (by omega)]
  · rw [if_neg fun both => small both.2, Nat.min_eq_right (by omega)]

/-- The value is the saturated one for digits of ASCII, and for others that denote no number below
the greatest. -/
theorem unsignedValue_eq_iff (ds : List Char) : unsignedValue ds = saturatedValue ds ↔
    (∀ c ∈ ds, isAsciiDigit c) ∨ UInt64.size - 1 ≤ decimalValue ds := by
  by_cases ascii : ∀ c ∈ ds, isAsciiDigit c
  · simp only [unsignedValue_of_isAsciiDigit ascii, true_iff]
    exact .inl ascii
  · have other : ¬ (ds.all isAsciiDigit ∧ decimalValue ds < UInt64.size) := fun both =>
      ascii (List.all_eq_true.mp both.1)
    have small : min (decimalValue ds) (UInt64.size - 1) < UInt64.size := by
      simp only [UInt64.size]
      omega
    rw [unsignedValue, if_neg other, saturatedValue, ofNat_eq_greatest_iff small]
    simp only [ascii, false_or]
    omega

end Field.Capture

namespace BlockPattern

def capturesFrom : List Field → (before : Option Char) → List Char → Option (List Capture)
  | [], _, _ => some []
  | f :: fs, before, cs => do
    let (capture, rest) ← search f.name.toList f.kind before cs
    let captures ← capturesFrom fs capture.last? rest
    return capture :: captures

def captures (p : BlockPattern) (block : List Char) : Option (List Capture) :=
  capturesFrom p.fields none block

theorem exists_captures {fields : List Field} {before : Option Char} {cs : List Char}
    {values : Values} (matched : matchFields fields before cs = some values) :
    ∃ captures, capturesFrom fields before cs = some captures ∧
      List.Forall₂ (fun capture v => capture.value? = some v.2) captures values := by
  induction fields generalizing before cs values with
  | nil =>
    cases matched
    exact ⟨[], rfl, .nil⟩
  | cons f fields ih =>
    simp only [matchFields, Option.bind_eq_bind, Option.bind_eq_some_iff] at matched
    obtain ⟨⟨capture, rest⟩, found, value, read, later, others, result⟩ := matched
    cases result
    obtain ⟨captures, taken, same⟩ := ih others
    refine ⟨capture :: captures, ?_, .cons read same⟩
    simp [capturesFrom, found, taken]

def Saturates (p : BlockPattern) (block : List Char) : Prop :=
  ∀ values, p.matchText block = some values → ∃ captures, p.captures block = some captures ∧
    List.Forall₂ (fun capture (v : String × FieldValue) => ∀ ds, capture = .unsigned ds →
      v.2 = .unsigned (Capture.saturatedValue ds)) captures values

theorem forall₂_saturated_iff {captures : List Capture} {values : Values}
    (same : List.Forall₂ (fun capture (v : String × FieldValue) => capture.value? = some v.2)
      captures values) :
    List.Forall₂ (fun capture (v : String × FieldValue) => ∀ ds, capture = .unsigned ds →
        v.2 = .unsigned (Capture.saturatedValue ds)) captures values ↔
      ∀ ds, .unsigned ds ∈ captures →
        (∀ c ∈ ds, isAsciiDigit c) ∨ UInt64.size - 1 ≤ decimalValue ds := by
  induction same with
  | nil => simp
  | @cons capture v captures values read same ih =>
    rw [List.forall₂_cons, ih]
    simp only [List.mem_cons, or_imp, forall_and]
    refine and_congr (forall_congr' fun ds => ?_) Iff.rfl
    constructor
    · rintro saturated rfl
      have value : FieldValue.unsigned (Capture.unsignedValue ds) = v.2 := Option.some.inj read
      rw [saturated rfl] at value
      exact (Capture.unsignedValue_eq_iff ds).mp (FieldValue.unsigned.inj value)
    · rintro exact' rfl
      have value : FieldValue.unsigned (Capture.unsignedValue ds) = v.2 := Option.some.inj read
      rw [← value, (Capture.unsignedValue_eq_iff ds).mpr (exact' rfl)]

theorem saturates_iff (p : BlockPattern) (block : List Char) : p.Saturates block ↔
    ∀ values captures, p.matchText block = some values → p.captures block = some captures →
      ∀ ds, .unsigned ds ∈ captures →
        (∀ c ∈ ds, isAsciiDigit c) ∨ UInt64.size - 1 ≤ decimalValue ds := by
  constructor
  · intro saturates values captures matched taken
    obtain ⟨captures', taken', saturated⟩ := saturates values matched
    obtain rfl : captures = captures' := Option.some.inj (taken.symm.trans taken')
    obtain ⟨captures', taken', same⟩ := exists_captures matched
    obtain rfl : captures = captures' := Option.some.inj (taken.symm.trans taken')
    exact (forall₂_saturated_iff same).mp saturated
  · intro plain values matched
    obtain ⟨captures, taken, same⟩ := exists_captures matched
    exact ⟨captures, taken, (forall₂_saturated_iff same).mpr (plain values captures matched taken)⟩

def countPattern : BlockPattern := ⟨[⟨"amount", .unsigned⟩], by simp⟩

def arabicCount : List Char := "\x7b amount: \u0663 \x7d".toList

theorem not_saturates_arabic :
    countPattern.matchText arabicCount = some [("amount", .unsigned 18446744073709551615)] ∧
      ¬ countPattern.Saturates arabicCount := by
  have matched : countPattern.matchText arabicCount =
      some [("amount", .unsigned 18446744073709551615)] := by rfl
  have taken : countPattern.captures arabicCount = some [.unsigned ['\u0663']] := by rfl
  refine ⟨matched, ?_⟩
  intro saturates
  obtain ⟨captures, taken', saturated⟩ := saturates _ matched
  obtain rfl := Option.some.inj (taken.symm.trans taken')
  have three := (List.forall₂_cons.mp saturated).1 _ rfl
  cases three

end BlockPattern

end MockData
