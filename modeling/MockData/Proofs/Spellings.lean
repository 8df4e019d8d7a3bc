import MockData.Date
import MockData.Proofs.Numerals
import MockData.Proofs.Unambiguous

/-!
Days as they may be spelled. The reader takes more than the full form of four digits, two and two:
blanks before a number, a sign of the year, and numbers of another length. It takes exactly the
spellings of existing days, and no text is spelled in two ways, so a text that spells a day has the
full form exactly if it is spelled without these liberties.
-/
namespace MockData

open Script Text

namespace Date

inductive Sign
  | none
  | plus
  | minus
  deriving DecidableEq, Repr

namespace Sign

def written : Sign → List Char
  | none => []
  | plus => ['+']
  | minus => ['-']

def apply : Sign → Nat → Int
  | none, n | plus, n => n
  | minus, n => -n

end Sign

@[ext]
structure Padded where
  gap : List Char
  isBlank_gap : ∀ c ∈ gap, isBlank c
  number : Numeral

namespace Padded

def written (p : Padded) : List Char := p.gap ++ p.number.digits

def length (p : Padded) : Nat := p.number.digits.length

end Padded

/-- A day as it may be spelled. The sign of the year stands behind its blanks, and only a year with
a sign has more than four digits. -/
@[ext]
structure Spelling where
  sign : Sign
  year : Padded
  month : Padded
  day : Padded
  length_year : sign = .none → year.length ≤ 4
  length_month : month.length ≤ 2
  length_day : day.length ≤ 2

namespace Spelling

def text (s : Spelling) : List Char :=
  s.year.gap ++ (s.sign.written ++ (s.year.number.digits ++ '-' ::
    (s.month.written ++ '-' :: s.day.written)))

def date (s : Spelling) : Date :=
  ⟨s.sign.apply s.year.number.value, s.month.number.value, s.day.number.value⟩

structure InFull (s : Spelling) : Prop where
  sign_eq : s.sign = .none
  gaps_eq : s.year.gap = [] ∧ s.month.gap = [] ∧ s.day.gap = []
  lengths_eq : s.year.length = 4 ∧ s.month.length = 2 ∧ s.day.length = 2

end Spelling

theorem exists_numeral {limit n : Nat} {cs rest : List Char}
    (read : number limit cs = some (n, rest)) :
    ∃ m : Numeral, cs = m.digits ++ rest ∧ m.value = n ∧ m.digits.length ≤ limit := by
  simp only [number] at read
  split at read
  · cases read
  · rename_i nonempty
    obtain ⟨rfl, rfl⟩ := Prod.mk.inj (Option.some.inj read)
    have ascii : ∀ c ∈ (cs.take limit).takeWhile isAsciiDigit, isAsciiDigit c :=
      List.all_eq_true.mp List.all_takeWhile
    have within := List.takeWhile_prefix (l := cs.take limit) isAsciiDigit
    have front := within.trans (List.take_prefix limit cs)
    refine ⟨⟨_, by simpa using nonempty, ascii⟩, ?_, ?_, ?_⟩
    · exact (List.prefix_iff_eq_append.mp front).symm
    · exact (decimalValue_of_isAsciiDigit ascii).symm
    · exact Nat.le_trans within.length_le (List.length_take_le limit cs)

theorem number_append {limit : Nat} (m : Numeral) (short : m.digits.length ≤ limit)
    {rest : List Char} (ends : ∀ c ∈ rest.head?, isAsciiDigit c = false) :
    number limit (m.digits ++ rest) = some (m.value, rest) := by
  have taken : ((m.digits ++ rest).take limit).takeWhile isAsciiDigit = m.digits := by
    rw [List.take_append, List.take_of_length_le short,
      List.takeWhile_append_of_pos m.isAsciiDigit_digits]
    have nothing : (rest.take (limit - m.digits.length)).takeWhile isAsciiDigit = [] := by
      cases rest with
      | nil => simp
      | cons c rest =>
        have other := ends c rfl
        cases limit - m.digits.length with
        | zero => rfl
        | succ n => simp [other]
    rw [nothing, List.append_nil]
  have nonempty : m.digits.isEmpty = false := by simpa using m.digits_ne_nil
  simp only [number, taken, nonempty, List.drop_left]
  rw [decimalValue_of_isAsciiDigit m.isAsciiDigit_digits]
  rfl

theorem head?_hyphen (rest : List Char) :
    ∀ c ∈ ('-' :: rest).head?, isAsciiDigit c = false := by
  intro c first
  cases first
  decide

theorem exists_signed {cs rest : List Char} {y : Int} (read : yearNumber cs = some (y, rest)) :
    ∃ (sign : Sign) (m : Numeral), cs = sign.written ++ (m.digits ++ rest) ∧
      sign.apply m.value = y ∧ (sign = .none → m.digits.length ≤ 4) := by
  unfold yearNumber at read
  split at read
  all_goals
    obtain ⟨⟨n, rest'⟩, found, result⟩ := Option.map_eq_some_iff.mp read
    obtain ⟨rfl, rfl⟩ := Prod.mk.inj result
    obtain ⟨m, rfl, rfl, short⟩ := exists_numeral found
  · exact ⟨.plus, m, rfl, rfl, by simp⟩
  · exact ⟨.minus, m, rfl, rfl, by simp⟩
  · exact ⟨.none, m, rfl, rfl, fun _ => short⟩

theorem yearNumber_append (sign : Sign) (m : Numeral)
    (short : sign = .none → m.digits.length ≤ 4) (rest : List Char) :
    yearNumber (sign.written ++ (m.digits ++ '-' :: rest)) =
      some (sign.apply m.value, '-' :: rest) := by
  have signed : number (m.digits ++ '-' :: rest).length (m.digits ++ '-' :: rest) =
      some (m.value, '-' :: rest) := number_append m (by simp) (head?_hyphen rest)
  cases sign with
  | plus =>
    simp only [Sign.written, List.singleton_append, yearNumber, signed]
    rfl
  | minus =>
    simp only [Sign.written, List.singleton_append, yearNumber, signed]
    rfl
  | none =>
    have unsigned := number_append m (short rfl) (head?_hyphen rest)
    obtain ⟨d, ds, split, digit⟩ := m.exists_cons
    have noPlus : d ≠ '+' := by rintro rfl; cases digit
    have noMinus : d ≠ '-' := by rintro rfl; cases digit
    rw [split, List.cons_append] at unsigned
    simp only [Sign.written, List.nil_append, split, List.cons_append]
    rw [yearNumber.eq_3 _ (by simp [noPlus]) (by simp [noMinus]), unsigned]
    rfl

theorem hyphen_eq_some_iff {cs rest : List Char} : hyphen cs = some rest ↔ cs = '-' :: rest := by
  unfold hyphen
  split
  · simp
  · rename_i other
    constructor
    · intro read
      cases read
    · intro split
      exact absurd split (other rest)

theorem exists_padded {limit n : Nat} {cs rest : List Char}
    (read : number limit (dropBlanks cs) = some (n, rest)) :
    ∃ p : Padded, cs = p.written ++ rest ∧ p.number.value = n ∧ p.length ≤ limit := by
  obtain ⟨m, split, rfl, short⟩ := exists_numeral read
  obtain ⟨gap, rfl, blank⟩ := exists_blanks split
  exact ⟨⟨gap, blank, m⟩, (List.append_assoc _ _ _).symm, rfl, short⟩

theorem Padded.dropBlanks_written (p : Padded) (rest : List Char) :
    dropBlanks (p.written ++ rest) = p.number.digits ++ rest := by
  rw [written, List.append_assoc, dropBlanks_append p.isBlank_gap, p.number.dropBlanks_append]

theorem dropBlanks_signed (p : Padded) (sign : Sign) (rest : List Char) :
    dropBlanks (p.gap ++ (sign.written ++ (p.number.digits ++ rest))) =
      sign.written ++ (p.number.digits ++ rest) := by
  rw [dropBlanks_append p.isBlank_gap]
  cases sign with
  | none => exact p.number.dropBlanks_append rest
  | plus | minus => exact dropBlanks_cons (by decide) _

theorem ofChars?_text (s : Spelling) :
    ofChars? s.text = if s.date.isDay then some s.date else none := by
  have year := yearNumber_append s.sign s.year.number s.length_year
  have month (rest : List Char) := number_append s.month.number s.length_month (head?_hyphen rest)
  have day : number 2 (s.day.number.digits ++ []) = some (s.day.number.value, []) :=
    number_append s.day.number s.length_day (by simp)
  have gap := s.day.dropBlanks_written []
  rw [List.append_nil] at day
  rw [List.append_nil, List.append_nil] at gap
  simp only [ofChars?, Spelling.text, dropBlanks_signed, year, Option.bind_eq_bind,
    Option.bind_some, hyphen, Padded.dropBlanks_written, month, gap, day]
  rfl

theorem ofChars?_eq_some_iff {cs : List Char} {d : Date} :
    ofChars? cs = some d ↔ ∃ s : Spelling, s.text = cs ∧ s.date = d ∧ d.isDay := by
  constructor
  · intro read
    have isDay := isDay_of_ofChars? read
    simp only [ofChars?, Option.bind_eq_bind, Option.bind_eq_some_iff] at read
    obtain ⟨⟨y, behindYear⟩, readYear, fromMonth, hyphen, ⟨m, behindMonth⟩, readMonth, fromDay,
      hyphen', ⟨n, behindDay⟩, readDay, result⟩ := read
    obtain ⟨sign, number, split, rfl, shortYear⟩ := exists_signed readYear
    obtain ⟨gap, rfl, blank⟩ := exists_blanks split
    obtain ⟨month, rfl, rfl, shortMonth⟩ := exists_padded readMonth
    obtain ⟨day, rfl, rfl, shortDay⟩ := exists_padded readDay
    obtain rfl := hyphen_eq_some_iff.mp hyphen
    obtain rfl := hyphen_eq_some_iff.mp hyphen'
    split at result
    · rename_i whole
      obtain rfl : behindDay = [] := by simpa using (Bool.and_eq_true_iff.mp whole).1
      cases result
      exact ⟨⟨sign, ⟨gap, blank, number⟩, month, day, shortYear, shortMonth, shortDay⟩,
        by simp [Spelling.text], rfl, isDay⟩
    · cases result
  · rintro ⟨s, rfl, rfl, isDay⟩
    rw [ofChars?_text, if_pos isDay]

example : ofText? "\u30001990-\u20031-\t5" = some ⟨1990, 1, 5⟩ := by decide +kernel

theorem digits_append_inj {m n : Numeral} {cs ds : List Char}
    (same : m.digits ++ '-' :: cs = n.digits ++ '-' :: ds) : m = n ∧ cs = ds := by
  obtain ⟨digits, rest⟩ := append_inj_of_class m.isAsciiDigit_digits n.isAsciiDigit_digits
    (c := '-') (d := '-') (by decide) (by decide) same
  cases m
  cases n
  cases digits
  exact ⟨rfl, (List.cons.inj rest).2⟩

theorem padded_append_inj {p q : Padded} {cs ds : List Char}
    (same : p.written ++ '-' :: cs = q.written ++ '-' :: ds) : p = q ∧ cs = ds := by
  have behind := congrArg dropBlanks same
  rw [p.dropBlanks_written, q.dropBlanks_written] at behind
  obtain ⟨number, rest⟩ := digits_append_inj behind
  rw [Padded.written, Padded.written, List.append_assoc, List.append_assoc, behind] at same
  exact ⟨Padded.ext (List.append_cancel_right same) number, rest⟩

theorem sign_append_inj {sign sign' : Sign} {m n : Numeral} {cs ds : List Char}
    (same : sign.written ++ (m.digits ++ cs) = sign'.written ++ (n.digits ++ ds)) :
    sign = sign' ∧ m.digits ++ cs = n.digits ++ ds := by
  obtain ⟨d, rest, split, digit⟩ := m.exists_cons
  obtain ⟨d', rest', split', digit'⟩ := n.exists_cons
  rw [split, split'] at same ⊢
  -- A digit is no sign, so the first characters tell the signs apart.
  cases sign <;> cases sign' <;> obtain ⟨first, behind⟩ := List.cons.inj same
  case none.none => exact ⟨rfl, same⟩
  case plus.plus | minus.minus => exact ⟨rfl, behind⟩
  case plus.minus | minus.plus => cases first
  case none.plus | none.minus =>
    subst first
    cases digit
  case plus.none | minus.none =>
    subst first
    cases digit'

theorem signed_append_inj {p q : Padded} {sign sign' : Sign} {cs ds : List Char}
    (same : p.gap ++ (sign.written ++ (p.number.digits ++ '-' :: cs)) =
      q.gap ++ (sign'.written ++ (q.number.digits ++ '-' :: ds))) :
    p = q ∧ sign = sign' ∧ cs = ds := by
  have behind := congrArg dropBlanks same
  rw [dropBlanks_signed, dropBlanks_signed] at behind
  obtain ⟨signs, fromDigits⟩ := sign_append_inj behind
  obtain ⟨number, rest⟩ := digits_append_inj fromDigits
  rw [behind] at same
  exact ⟨Padded.ext (List.append_cancel_right same) number, signs, rest⟩

theorem Spelling.text_injective {s t : Spelling} (same : s.text = t.text) : s = t := by
  obtain ⟨year, sign, fromMonth⟩ := signed_append_inj same
  obtain ⟨month, fromDay⟩ := padded_append_inj fromMonth
  obtain ⟨day, -⟩ := padded_append_inj (congrArg (· ++ ['-']) fromDay)
  exact Spelling.ext sign year month day

def IsFullForm (cs : List Char) : Prop :=
  ∃ year month day : Numeral, cs = year.digits ++ '-' :: (month.digits ++ '-' :: day.digits) ∧
    year.digits.length = 4 ∧ month.digits.length = 2 ∧ day.digits.length = 2 ∧
    (Date.mk year.value month.value day.value).isDay

theorem length_of_isFullForm {cs : List Char} (full : IsFullForm cs) : cs.length = 10 := by
  obtain ⟨year, month, day, rfl, yearLength, monthLength, dayLength, -⟩ := full
  simp only [List.length_append, List.length_cons]
  omega

theorem isFullForm_iff {cs : List Char} :
    IsFullForm cs ↔ ∃ s : Spelling, s.text = cs ∧ s.date.isDay ∧ s.InFull := by
  constructor
  · rintro ⟨year, month, day, rfl, yearLength, monthLength, dayLength, isDay⟩
    let bare (n : Numeral) : Padded := ⟨[], by simp, n⟩
    exact ⟨⟨.none, bare year, bare month, bare day, fun _ => Nat.le_of_eq yearLength,
      Nat.le_of_eq monthLength, Nat.le_of_eq dayLength⟩, rfl, isDay, rfl, ⟨rfl, rfl, rfl⟩,
      yearLength, monthLength, dayLength⟩
  · rintro ⟨s, rfl, isDay, noSign, ⟨yearGap, monthGap, dayGap⟩, year, month, day⟩
    rw [Spelling.date, noSign] at isDay
    refine ⟨s.year.number, s.month.number, s.day.number, ?_, year, month, day, isDay⟩
    rw [Spelling.text, Padded.written, Padded.written, yearGap, noSign, monthGap, dayGap]
    rfl

/-- A text that spells a day has the full form exactly if its spelling takes no liberty. -/
theorem Spelling.isFullForm_text_iff {s : Spelling} (isDay : s.date.isDay) :
    IsFullForm s.text ↔ s.InFull := by
  constructor
  · intro full
    obtain ⟨t, same, -, inFull⟩ := isFullForm_iff.mp full
    rwa [← text_injective same]
  · intro inFull
    exact isFullForm_iff.mpr ⟨s, rfl, isDay, inFull⟩

end Date

end MockData
