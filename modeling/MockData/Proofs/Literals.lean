import MockData.Proofs.Quoting
import MockData.Proofs.Searching

/-!
Literals of a record as a field reads them: strings, whole numbers that are not negative, and
null. What a field takes is the literal, and what it makes of it is the value that was written.
-/
namespace MockData.Script

open Text MockData.Field

theorem isAsciiDigit_iff {c : Char} : isAsciiDigit c ↔ c.isDigit := by
  simp [isAsciiDigit, Char.isDigit, Char.le_def, UInt32.le_iff_toNat_le]

theorem toNat_of_isAsciiDigit {c : Char} (digit : isAsciiDigit c) :
    48 ≤ c.toNat ∧ c.toNat ≤ 57 := by
  simpa [isAsciiDigit, Char.le_def, UInt32.le_iff_toNat_le] using digit

theorem isBlank_of_isAsciiDigit {c : Char} (digit : isAsciiDigit c) : isBlank c = false := by
  have bounds := toNat_of_isAsciiDigit digit
  simp [isBlank]
  omega

theorem decimalValue_of_isAsciiDigit {cs : List Char} (digits : ∀ c ∈ cs, isAsciiDigit c) :
    decimalValue cs = Nat.ofDigitChars 10 cs 0 := by
  have fold : ∀ n, cs.foldl (fun n c => 10 * n + digitValue c) n = Nat.ofDigitChars 10 cs n := by
    induction cs with
    | nil => intro n; simp
    | cons c cs ih =>
      intro n
      have value : digitValue c = c.toNat - '0'.toNat := by simp [digitValue, digits c (by simp)]
      rw [List.foldl_cons, value, Nat.ofDigitChars_cons]
      exact ih (fun d member => digits d (by simp [member])) _
  exact fold 0

theorem isAsciiDigit_toDigits {n : Nat} {c : Char} (member : c ∈ Nat.toDigits 10 n) :
    isAsciiDigit c :=
  isAsciiDigit_iff.mpr (Nat.isDigit_of_mem_toDigits (by decide) (by decide) member)

theorem decimalValue_toDigits (n : Nat) : decimalValue (Nat.toDigits 10 n) = n := by
  rw [decimalValue_of_isAsciiDigit fun _ => isAsciiDigit_toDigits]
  exact Nat.ofDigitChars_ten_toDigits

theorem takeDigits_append_cons {ds : List Char} (digits : ∀ d ∈ ds, isDigit d) {c : Char}
    (other : isDigit c = false) (cs : List Char) : takeDigits (ds ++ c :: cs) = (ds, c :: cs) := by
  induction ds with
  | nil => simp [takeDigits, other]
  | cons d ds ih =>
    have later := ih (fun e member => digits e (by simp [member]))
    simp only [takeDigits, Prod.mk.injEq] at later
    simp [takeDigits, digits d (by simp), later]

theorem wholeNumber_append_cons {ds : List Char} (nonempty : ds ≠ []) (digits : ∀ d ∈ ds, isDigit d)
    {c : Char} (other : isDigit c = false) (cs : List Char) :
    wholeNumber (ds ++ c :: cs) = some (.unsigned ds, c :: cs) := by
  rw [wholeNumber, takeDigits_append_cons digits other]
  cases ds with
  | nil => contradiction
  | cons d ds => rfl

theorem unsignedValue_toDigits {n : Nat} (small : n < UInt64.size) :
    Capture.unsignedValue (Nat.toDigits 10 n) = UInt64.ofNat n := by
  have digits : (Nat.toDigits 10 n).all isAsciiDigit :=
    List.all_eq_true.mpr fun _ => isAsciiDigit_toDigits
  simp [Capture.unsignedValue, digits, decimalValue_toDigits, small]

theorem toList_toString_of_nonneg {n : Int} (nonneg : 0 ≤ n) :
    (toString n).toList = Nat.toDigits 10 n.toNat := by
  simp [Int.repr_eq_if, nonneg]

theorem isPlain_of_isAsciiDigit {c : Char} (digit : isAsciiDigit c) : isPlain c :=
  isPlain_of_class (by decide) digit

theorem toList_toString_of_neg {n : Int} (negative : n < 0) :
    (toString n).toList = '-' :: Nat.toDigits 10 n.natAbs := by
  have magnitude : (-n).toNat = n.natAbs := by omega
  simp [Int.repr_eq_if, show ¬ 0 ≤ n by omega, magnitude]

theorem toString_injective {n m : Int} (same : toString n = toString m) : n = m := by
  have digits {a b : Nat} (same : Nat.toDigits 10 a = Nat.toDigits 10 b) : a = b := by
    rw [← decimalValue_toDigits a, same, decimalValue_toDigits]
  have unsigned {a b : Nat} : Nat.toDigits 10 a ≠ '-' :: Nat.toDigits 10 b := fun split => by
    have digit : isAsciiDigit '-' := isAsciiDigit_toDigits (split ▸ List.mem_cons_self)
    cases digit
  have chars := congrArg String.toList same
  by_cases negative : n < 0
  · rw [toList_toString_of_neg negative] at chars
    by_cases negative' : m < 0
    · rw [toList_toString_of_neg negative'] at chars
      have := digits (List.cons.inj chars).2
      omega
    · rw [toList_toString_of_nonneg (Int.not_lt.mp negative')] at chars
      exact absurd chars.symm unsigned
  · rw [toList_toString_of_nonneg (Int.not_lt.mp negative)] at chars
    by_cases negative' : m < 0
    · rw [toList_toString_of_neg negative'] at chars
      exact absurd chars unsigned
    · rw [toList_toString_of_nonneg (Int.not_lt.mp negative')] at chars
      have := digits chars
      omega

def isSigned (c : Char) : Bool := isAsciiDigit c || c == '-'

theorem exists_cons_toString (n : Int) :
    ∃ c cs, (toString n).toList = c :: cs ∧ ∀ d ∈ c :: cs, isSigned d := by
  have digits (m : Nat) : ∀ d ∈ Nat.toDigits 10 m, isSigned d := fun d member => by
    rw [isSigned, isAsciiDigit_toDigits member, Bool.true_or]
  by_cases negative : n < 0
  · exact ⟨_, _, toList_toString_of_neg negative, List.forall_mem_cons.mpr ⟨rfl, digits _⟩⟩
  · rw [toList_toString_of_nonneg (Int.not_lt.mp negative)]
    obtain ⟨c, cs, split⟩ := List.exists_cons_of_ne_nil (Nat.toDigits_ne_nil (b := 10))
    exact ⟨c, cs, split, split ▸ digits n.toNat⟩

theorem isSigned_of_mem_toString {n : Int} {c : Char} (member : c ∈ (toString n).toList) :
    isSigned c := by
  obtain ⟨d, ds, split, signed⟩ := exists_cons_toString n
  exact signed c (split ▸ member)

theorem isPlain_of_mem_toString {n : Int} {c : Char} (member : c ∈ (toString n).toList) :
    isPlain c :=
  isPlain_of_class (by decide) (isSigned_of_mem_toString member)

namespace Literal

def isOfKind : Literal → FieldKind → Bool
  | .text _, .text | .text _, .nullable | .null, .nullable => true
  | .int n, .unsigned => 0 ≤ n.toInt
  | _, _ => false

def value : Literal → FieldValue
  | .text s => .text s
  | .int n => .unsigned (UInt64.ofNat n.toInt.toNat)
  | .null => .null

theorem passes_render (l : Literal) : Passes l.render.toList := by
  cases l with
  | text s => exact passes_quote s
  | int n => exact Passes.of_isPlain fun _ => isPlain_of_mem_toString
  | null => exact Passes.of_isPlain (List.all_eq_true.mp rfl)

end Literal

theorem matchValue_text {kind : FieldKind} (s : String) (kinds : kind = .text ∨ kind = .nullable)
    (cs : List Char) :
    matchValue kind ((quote s).toList ++ cs) = some (.text (quoteBody s.toList), cs) := by
  have read : stringLiteral ((quote s).toList ++ cs) = some (.text (quoteBody s.toList), cs) := by
    simp [quote, stringLiteral, literalBody_quoteBody]
  rcases kinds with rfl | rfl
  · exact read
  · have notNull : nullWord ((quote s).toList ++ cs) = none := by simp [quote, nullWord]
    rw [matchValue, notNull, Option.none_or, read]

theorem matchValue_render {l : Literal} {kind : FieldKind} (fits : l.isOfKind kind) {c : Char}
    (ends : Ends c) (cs : List Char) :
    ∃ capture, capture.value? = some l.value ∧
      matchValue kind (l.render.toList ++ c :: cs) = some (capture, c :: cs) := by
  match l, kind with
  | .text s, .text =>
    refine ⟨_, ?_, matchValue_text s (.inl rfl) _⟩
    simp [Capture.value?, unescape_quoteBody, Literal.value]
  | .text s, .nullable =>
    refine ⟨_, ?_, matchValue_text s (.inr rfl) _⟩
    simp [Capture.value?, unescape_quoteBody, Literal.value]
  | .null, .nullable =>
    have last : isWord 'l' := by decide
    refine ⟨.null, rfl, ?_⟩
    simp [Literal.render, matchValue, nullWord, isBoundary, ends.word, last]
  | .int n, .unsigned =>
    have nonneg : 0 ≤ n.toInt := by simpa [Literal.isOfKind] using fits
    have small : n.toInt.toNat < UInt64.size := by
      have := n.toInt_lt
      simp only [UInt64.size]
      omega
    refine ⟨.unsigned (Nat.toDigits 10 n.toInt.toNat), ?_, ?_⟩
    · rw [Capture.value?, unsignedValue_toDigits small, Literal.value]
    · rw [Literal.render, toList_toString_of_nonneg nonneg, matchValue]
      exact wholeNumber_append_cons Nat.toDigits_ne_nil
        (fun _ member => isDigit_of_isAsciiDigit (isAsciiDigit_toDigits member)) ends.digit cs

theorem dropBlanks_render {l : Literal} {kind : FieldKind} (fits : l.isOfKind kind)
    (cs : List Char) : dropBlanks (l.render.toList ++ cs) = l.render.toList ++ cs := by
  cases l with
  | text s =>
    rw [Literal.render, quote, String.toList_ofList]
    exact dropBlanks_cons rfl _
  | null => exact dropBlanks_cons (c := 'n') rfl _
  | int n =>
    have nonneg : 0 ≤ n.toInt := by
      cases kind with
      | unsigned => simpa [Literal.isOfKind] using fits
      | text | nullable | decimal => cases fits
    rw [Literal.render, toList_toString_of_nonneg nonneg]
    cases digits : Nat.toDigits 10 n.toInt.toNat with
    | nil => exact absurd digits Nat.toDigits_ne_nil
    | cons d ds =>
      have member : d ∈ Nat.toDigits 10 n.toInt.toNat := digits ▸ List.mem_cons_self
      exact dropBlanks_cons (isBlank_of_isAsciiDigit (isAsciiDigit_toDigits member)) _

theorem reads_render {l : Literal} {kind : FieldKind} (fits : l.isOfKind kind) :
    Reads kind l.render.toList l.value := by
  intro c cs ends
  rw [dropBlanks_render fits]
  exact matchValue_render fits ends cs

end MockData.Script
