import MockData.Proofs.Literals
import MockData.Proofs.Overflows

/-!
Numbers as anyone may write them, with blanks around them. A field takes all the digits of one,
and the number they denote or, for too great a number, the greatest there is.
-/
namespace MockData.Script

open Text MockData.Field

def blankCodes : List Nat := [9, 10, 11, 12, 13, 32, 0x85, 0xA0, 0x1680, 0x2000, 0x2001, 0x2002,
  0x2003, 0x2004, 0x2005, 0x2006, 0x2007, 0x2008, 0x2009, 0x200A, 0x2028, 0x2029, 0x202F, 0x205F,
  0x3000]

theorem toNat_mem_blankCodes {c : Char} (blank : isBlank c) : c.toNat ∈ blankCodes := by
  simp only [isBlank, Bool.or_eq_true, Bool.and_eq_true, decide_eq_true_eq] at blank
  simp only [blankCodes, List.mem_cons, List.not_mem_nil, or_false]
  omega

theorem blankCodes_apart : ∀ n ∈ blankCodes, 0x80 ≤ n →
    (wordRuns.toList.any fun r => r.1 ≤ n && n ≤ r.2) = false ∧
      (digitRuns.any fun r => r.1 ≤ n && n ≤ r.2) = false := by decide +kernel

theorem ends_of_isBlank {c : Char} (blank : isBlank c) : Ends c := by
  have code := toNat_mem_blankCodes blank
  by_cases small : c.toNat < 0x80
  · have ascii : ∀ n ∈ blankCodes, n < 0x80 → Ends (Char.ofNat n) := by decide
    have ends := ascii c.toNat code small
    rwa [Char.ofNat_toNat] at ends
  · obtain ⟨word, digit⟩ := blankCodes_apart c.toNat code (by omega)
    rw [Array.any_toList] at word
    have other : isAsciiDigit c = false := by
      cases isDigit : isAsciiDigit c with
      | false => rfl
      | true => exact absurd (toNat_of_isAsciiDigit isDigit).2 (by omega)
    refine ⟨by rw [isWord, if_neg small, word], by rw [isDigit, other, digit]; simp, ?_⟩
    rintro rfl
    cases blank

theorem isPlain_of_isBlank {c : Char} (blank : isBlank c) : isPlain c :=
  isPlain_of_class (by decide) blank

theorem exists_ends_cons {blanks : List Char} (allBlank : ∀ c ∈ blanks, isBlank c) {c : Char}
    (ends : Ends c) (cs : List Char) : ∃ d ds, blanks ++ c :: cs = d :: ds ∧ Ends d := by
  cases blanks with
  | nil => exact ⟨c, cs, rfl, ends⟩
  | cons b blanks => exact ⟨b, blanks ++ c :: cs, rfl, ends_of_isBlank (allBlank b (by simp))⟩

structure Numeral where
  digits : List Char
  digits_ne_nil : digits ≠ []
  isAsciiDigit_digits : ∀ c ∈ digits, isAsciiDigit c

namespace Numeral

def value (n : Numeral) : Nat := Nat.ofDigitChars 10 n.digits 0

def saturated (n : Numeral) : UInt64 := UInt64.ofNat (min n.value (UInt64.size - 1))

theorem exists_cons (n : Numeral) : ∃ d ds, n.digits = d :: ds ∧ isAsciiDigit d := by
  obtain ⟨digits, nonempty, ascii⟩ := n
  cases digits with
  | nil => contradiction
  | cons d ds => exact ⟨d, ds, rfl, ascii d (by simp)⟩

theorem dropBlanks_append (n : Numeral) (cs : List Char) :
    dropBlanks (n.digits ++ cs) = n.digits ++ cs := by
  obtain ⟨d, ds, split, digit⟩ := n.exists_cons
  rw [split]
  exact dropBlanks_cons (isBlank_of_isAsciiDigit digit) _

theorem unsignedValue_digits (n : Numeral) : Capture.unsignedValue n.digits = n.saturated := by
  rw [Capture.unsignedValue_of_isAsciiDigit n.isAsciiDigit_digits, Capture.saturatedValue,
    decimalValue_of_isAsciiDigit n.isAsciiDigit_digits]
  rfl

theorem reads (n : Numeral) : Reads .unsigned n.digits (.unsigned n.saturated) := by
  intro c cs ends
  refine ⟨.unsigned n.digits, by rw [Capture.value?, n.unsignedValue_digits], ?_⟩
  rw [n.dropBlanks_append, matchValue]
  exact wholeNumber_append_cons n.digits_ne_nil
    (fun d member => isDigit_of_isAsciiDigit (n.isAsciiDigit_digits d member)) ends.digit cs

theorem passes (n : Numeral) : Passes n.digits :=
  Passes.of_isPlain fun c member => isPlain_of_isAsciiDigit (n.isAsciiDigit_digits c member)

end Numeral

theorem ne_point {c : Char} (digit : isAsciiDigit c) : c ≠ '.' := by
  rintro rfl
  cases digit

theorem filter_digits {ds : List Char} (ascii : ∀ c ∈ ds, isAsciiDigit c) :
    ds.filter (· ≠ '.') = ds :=
  List.filter_eq_self.mpr fun c member => decide_eq_true (ne_point (ascii c member))

theorem decimalNumber_digits {ds : List Char} (nonempty : ds ≠ []) (digits : ∀ d ∈ ds, isDigit d)
    {c : Char} (ends : Ends c) (cs : List Char) :
    decimalNumber (ds ++ c :: cs) = some (.decimal ds, c :: cs) := by
  have point : c ≠ '.' := ends.point
  rw [decimalNumber, takeDigits_append_cons digits ends.digit]
  cases ds with
  | nil => contradiction
  | cons d ds => simp [point]

theorem decimalNumber_point {ds fs : List Char} (nonempty : ds ≠ []) (digits : ∀ d ∈ ds, isDigit d)
    (digits' : ∀ d ∈ fs, isDigit d) {c : Char} (ends : Ends c) (cs : List Char) :
    decimalNumber (ds ++ '.' :: (fs ++ c :: cs)) = some (.decimal (ds ++ '.' :: fs), c :: cs) := by
  rw [decimalNumber, takeDigits_append_cons digits rfl]
  cases ds with
  | nil => contradiction
  | cons d ds => simp [takeDigits_append_cons digits' ends.digit]

structure Decimal where
  whole : Numeral
  fraction : Option { ds : List Char // ∀ c ∈ ds, isAsciiDigit c }

namespace Decimal

def places (x : Decimal) : List Char := (x.fraction.map Subtype.val).getD []

def written (x : Decimal) : List Char :=
  x.whole.digits ++ (x.fraction.map fun ds => '.' :: ds.val).getD []

def value (x : Decimal) : Float :=
  Float.ofScientific (Nat.ofDigitChars 10 (x.whole.digits ++ x.places) 0) true x.places.length

theorem isAsciiDigit_places (x : Decimal) : ∀ c ∈ x.places, isAsciiDigit c := by
  rw [places]
  cases x.fraction with
  | none => simp
  | some ds => exact ds.property

theorem filter_written (x : Decimal) : x.written.filter (· ≠ '.') = x.whole.digits ++ x.places := by
  have digits : x.whole.digits.filter (· ≠ '.') = x.whole.digits :=
    filter_digits x.whole.isAsciiDigit_digits
  have places : x.places.filter (· ≠ '.') = x.places := filter_digits x.isAsciiDigit_places
  rw [written, List.filter_append, digits]
  cases fraction : x.fraction with
  | none => simp [Decimal.places, fraction]
  | some ds =>
    have same : x.places = ds.val := by simp [Decimal.places, fraction]
    rw [same] at places ⊢
    simpa using places

theorem drop_dropWhile_written (x : Decimal) :
    (x.written.dropWhile (· ≠ '.')).drop 1 = x.places := by
  have before : ∀ c ∈ x.whole.digits, decide (c ≠ '.') := fun c member =>
    decide_eq_true (ne_point (x.whole.isAsciiDigit_digits c member))
  rw [written, List.dropWhile_append_of_pos before, places]
  cases x.fraction with
  | none => rfl
  | some ds => rfl

theorem decimalValue?_written (x : Decimal) : Capture.decimalValue? x.written = some x.value := by
  have ascii : ∀ c ∈ x.whole.digits ++ x.places, isAsciiDigit c := by
    intro c member
    rcases List.mem_append.mp member with member | member
    · exact x.whole.isAsciiDigit_digits c member
    · exact x.isAsciiDigit_places c member
  simp only [Capture.decimalValue?, filter_written, drop_dropWhile_written]
  rw [if_pos (List.all_eq_true.mpr ascii), decimalValue_of_isAsciiDigit ascii, value]

theorem decimalNumber_written (x : Decimal) {c : Char} (ends : Ends c) (cs : List Char) :
    decimalNumber (x.written ++ c :: cs) = some (.decimal x.written, c :: cs) := by
  have whole : ∀ d ∈ x.whole.digits, isDigit d := fun d member =>
    isDigit_of_isAsciiDigit (x.whole.isAsciiDigit_digits d member)
  rw [written]
  cases x.fraction with
  | none => simpa using decimalNumber_digits x.whole.digits_ne_nil whole ends cs
  | some ds =>
    have places : ∀ d ∈ ds.val, isDigit d := fun d member =>
      isDigit_of_isAsciiDigit (ds.property d member)
    simpa using decimalNumber_point x.whole.digits_ne_nil whole places ends cs

theorem reads (x : Decimal) : Reads .decimal x.written (.decimal x.value) := by
  intro c cs ends
  refine ⟨.decimal x.written, by rw [Capture.value?, x.decimalValue?_written, Option.map_some], ?_⟩
  have front : dropBlanks (x.written ++ c :: cs) = x.written ++ c :: cs := by
    rw [written, List.append_assoc, x.whole.dropBlanks_append]
  rw [front, matchValue, x.decimalNumber_written ends]

theorem passes (x : Decimal) : Passes x.written := by
  refine x.whole.passes.append ?_
  cases x.fraction with
  | none => exact Passes.nil
  | some ds =>
    have point : Passes ['.'] := by decide
    exact point.append
      (Passes.of_isPlain fun c member => isPlain_of_isAsciiDigit (ds.property c member))

end Decimal

end MockData.Script
