import MockData.Json.Record
import MockData.Json.Value
import MockData.Proofs.Literals

/-!
Values of the data format are read back as they were written, whatever blanks a style puts between
their parts. A reader is said to take a value: it takes it off the front of any text in which
nothing behind the value could belong to it.
-/
namespace MockData.Json

open Text

structure Style.Plain (style : Style) : Prop where
  gap : ∀ depth, ∀ c ∈ style.gap depth, isBlank c
  colon : ∃ blanks, style.colon = ':' :: blanks ∧ ∀ c ∈ blanks, isBlank c

theorem Style.plain_compact : Style.compact.Plain where
  gap _ _ member := by cases member
  colon := ⟨[], rfl, by simp⟩

theorem Style.plain_pretty : Style.pretty.Plain where
  gap depth c member := by
    rcases List.mem_cons.mp member with rfl | blank
    · rfl
    · rw [(List.mem_replicate.mp blank).2]
      rfl
  colon := by
    refine ⟨[' '], rfl, fun c member => ?_⟩
    rw [List.mem_singleton.mp member]
    rfl

def Stops (cs : List Char) : Prop :=
  ∀ c ∈ cs.head?, isAsciiDigit c = false ∧ c ≠ '.' ∧ c ≠ 'e' ∧ c ≠ 'E'

def Takes {α : Type} (read : Reader α) (style : Style) (v : Value) (a : α) : Prop :=
  ∀ depth blanks rest, (∀ c ∈ blanks, isBlank c) → Stops rest →
    read (blanks ++ (v.chars style depth ++ rest)) = .ok (a, rest)

variable {style : Style} {α : Type}

theorem stops_nil : Stops [] := by simp [Stops]

theorem dropBlanks_append {blanks : List Char} (allBlank : ∀ c ∈ blanks, isBlank c)
    (cs : List Char) : dropBlanks (blanks ++ cs) = dropBlanks cs :=
  List.dropWhile_append_of_pos allBlank

theorem dropBlanks_cons {c : Char} (solid : isBlank c = false) (cs : List Char) :
    dropBlanks (c :: cs) = c :: cs :=
  List.dropWhile_cons_of_neg (by simp [solid])

theorem quoteChar_cases (c : Char) :
    (quoteChar c = [c] ∧ c ≠ '"' ∧ c ≠ '\\' ∧ ¬ c.toNat < 0x20) ∨
    (∃ e, quoteChar c = ['\\', e] ∧ e ≠ 'u' ∧ simpleEscape? e = some c) ∨
    (quoteChar c = '\\' :: 'u' :: hex4 c.toNat ∧ c.toNat < 0x20) := by
  unfold quoteChar
  split
  case h_8 notQuote notEscape _ _ _ _ _ =>
    split
    · rename_i control
      exact .inr (.inr ⟨rfl, control⟩)
    · rename_i graphic
      exact .inl ⟨rfl, notQuote, notEscape, graphic⟩
  all_goals exact .inr (.inl ⟨_, rfl, by decide, by decide⟩)

theorem quotedRest_quoteChar (c : Char) (cs : List Char) :
    quotedRest (quoteChar c ++ cs) = prepend c (quotedRest cs) := by
  rcases quoteChar_cases c with ⟨eq, notQuote, notEscape, graphic⟩ | ⟨e, eq, notUnit, meaning⟩ |
    ⟨eq, control⟩
  · rw [eq, List.singleton_append, quotedRest.eq_def]
    split
    case h_7 d ds _ _ _ _ same =>
      obtain ⟨rfl, rfl⟩ := List.cons.inj same
      exact if_neg graphic
    all_goals simp_all
  · rw [eq, List.cons_append, List.singleton_append, quotedRest.eq_def]
    split
    case h_7 d ds _ _ _ noEscape same =>
      obtain ⟨rfl, rfl⟩ := List.cons.inj same
      exact absurd rfl (noEscape e cs rfl)
    all_goals simp_all
  · have value := hexValue?_hex4 (show c.toNat < 65536 by omega)
    have notLow : isLowSurrogate c.toNat = false := by simp [isLowSurrogate]; omega
    have notHigh : isHighSurrogate c.toNat = false := by simp [isHighSurrogate]; omega
    simp only [hex4] at value
    simp [eq, hex4, quotedRest, value, notLow, notHigh, Script.ofUnit_toNat]

theorem quotedRest_flatMap (cs rest : List Char) :
    quotedRest (cs.flatMap quoteChar ++ '"' :: rest) = .ok (cs, rest) := by
  induction cs with
  | nil => rfl
  | cons c cs ih =>
    rw [List.flatMap_cons, List.append_assoc, quotedRest_quoteChar, ih]
    rfl

theorem takes_text (s : String) : Takes text style (.text s) s := by
  intro depth blanks rest allBlank _
  have opened : dropBlanks (quote s ++ rest) =
      '"' :: (s.toList.flatMap quoteChar ++ '"' :: rest) := by
    simp [quote, dropBlanks_cons (show isBlank '"' = false from rfl)]
  rw [text, dropBlanks_append allBlank, Value.chars, opened]
  simp only [quotedRest_flatMap]
  rw [Except.map, String.ofList_toList]

theorem isBlank_of_isAsciiDigit {c : Char} (digit : isAsciiDigit c) : isBlank c = false := by
  cases blank : isBlank c with
  | false => rfl
  | true =>
    simp only [isBlank, Bool.or_eq_true, decide_eq_true_eq] at blank
    rcases blank with ((rfl | rfl) | rfl) | rfl <;> cases digit

theorem head?_toDigits {n : Nat} (pos : 0 < n) : (Nat.toDigits 10 n).head? ≠ some '0' := by
  induction n using Nat.strongRecOn with
  | ind n ih =>
    by_cases small : n < 10
    · rw [Nat.toDigits_of_lt_base small]
      have each : ∀ m < 10, 0 < m → [m.digitChar].head? ≠ some '0' := by decide
      exact each n small pos
    · have front := ih (n / 10) (by omega) (by omega)
      rw [Nat.toDigits_of_base_le (by decide) (by omega), List.head?_append]
      cases digits : Nat.toDigits 10 (n / 10) with
      | nil => exact absurd digits Nat.toDigits_ne_nil
      | cons d ds => rwa [digits] at front

theorem decimalValue_fold_le (ds : List Char) (n : Nat) :
    n ≤ ds.foldl (fun n c => 10 * n + digitValue c) n := by
  induction ds generalizing n with
  | nil => exact Nat.le_refl n
  | cons d ds ih =>
    have first : n ≤ 10 * n + digitValue d := by omega
    exact Nat.le_trans first (ih _)

theorem absorb_digits {ds : List Char} (digits : ∀ d ∈ ds, isAsciiDigit d) {rest : List Char}
    (stops : Stops rest) (n : Nat)
    (small : ds.foldl (fun n c => 10 * n + digitValue c) n < UInt64.size) :
    absorb n (ds ++ rest) =
      (ds.foldl (fun n c => 10 * n + digitValue c) n, ds.length, rest) := by
  induction ds generalizing n with
  | nil =>
    cases rest with
    | nil => rfl
    | cons c cs => simp [absorb, (stops c rfl).1]
  | cons d ds ih =>
    have first := decimalValue_fold_le ds (10 * n + digitValue d)
    have later := ih (fun e member => digits e (by simp [member])) (10 * n + digitValue d) small
    have fits : 10 * n + digitValue d < UInt64.size := Nat.lt_of_le_of_lt first small
    simp [absorb, digits d (by simp), fits, later]

theorem dropDigits_of_stops {rest : List Char} (stops : Stops rest) :
    dropDigits rest = rest ∧ rest.takeWhile isAsciiDigit = [] := by
  cases rest with
  | nil => exact ⟨rfl, rfl⟩
  | cons c cs => simp [dropDigits, (stops c rfl).1]

theorem afterDigits_of_stops {rest : List Char} (stops : Stops rest) (negative : Bool) (n : Nat) :
    afterDigits negative n 0 rest = .ok (wholeNumber negative n, rest) := by
  cases rest with
  | nil => rfl
  | cons c cs =>
    obtain ⟨-, notPoint, notSmall, notLarge⟩ := stops c rfl
    rw [afterDigits.eq_def]
    split <;> simp_all

theorem unsignedNumber_toDigits {n : Nat} (small : n < UInt64.size) {rest : List Char}
    (stops : Stops rest) (negative : Bool) :
    unsignedNumber negative (Nat.toDigits 10 n ++ rest) = .ok (wholeNumber negative n, rest) := by
  by_cases zero : n = 0
  · subst zero
    have noDigit : startsWithDigit rest = false := by
      cases rest with
      | nil => rfl
      | cons c cs => simp [startsWithDigit, (stops c rfl).1]
    have zeros : Nat.toDigits 10 0 = ['0'] := rfl
    simp [zeros, unsignedNumber, noDigit, afterDigits_of_stops stops]
  · have value : (Nat.toDigits 10 n).foldl (fun n c => 10 * n + digitValue c) 0 = n :=
      Script.decimalValue_toDigits n
    have taken := absorb_digits (fun _ => Script.isAsciiDigit_toDigits) stops 0
      (value.symm ▸ small)
    obtain ⟨dropped, ended⟩ := dropDigits_of_stops stops
    cases digits : Nat.toDigits 10 n with
    | nil => exact absurd digits Nat.toDigits_ne_nil
    | cons d ds =>
      have notZero : d ≠ '0' := by
        rintro rfl
        exact head?_toDigits (Nat.pos_of_ne_zero zero) (by rw [digits, List.head?_cons])
      have digit : isAsciiDigit d := Script.isAsciiDigit_toDigits (digits ▸ List.mem_cons_self)
      rw [value, digits, List.cons_append] at taken
      rw [List.cons_append, unsignedNumber.eq_def]
      split
      case h_1 same => cases same
      case h_2 same => exact absurd (List.cons.inj same).1 notZero
      case h_3 same =>
        obtain ⟨rfl, rfl⟩ := List.cons.inj same
        simp only [digit, ↓reduceIte, taken, dropped, ended]
        exact afterDigits_of_stops stops negative n

theorem number_toDigits {n : Nat} (small : n < UInt64.size) {blanks rest : List Char}
    (allBlank : ∀ c ∈ blanks, isBlank c) (stops : Stops rest) :
    number (blanks ++ (Nat.toDigits 10 n ++ rest)) = .ok (.natural (.ofNat n), rest) := by
  have taken := unsignedNumber_toDigits small stops false
  rw [number, dropBlanks_append allBlank]
  cases digits : Nat.toDigits 10 n with
  | nil => exact absurd digits Nat.toDigits_ne_nil
  | cons d ds =>
    have digit : isAsciiDigit d := Script.isAsciiDigit_toDigits (digits ▸ List.mem_cons_self)
    rw [digits, List.cons_append] at taken
    rw [List.cons_append, dropBlanks_cons (isBlank_of_isAsciiDigit digit)]
    split
    · rename_i sign
      cases (List.cons.inj sign).1
      cases digit
    · simp [startsWithDigit, digit, taken, wholeNumber]

theorem takes_uint64 (n : UInt64) : Takes uint64 style (.number n.toNat) n := by
  intro depth blanks rest allBlank stops
  rw [Value.chars, Script.toList_toString_of_nonneg (by simp), Int.toNat_natCast, uint64, numberAs,
    number_toDigits n.toNat_lt allBlank stops]
  simp [bind, Except.bind, pure, Except.pure]

theorem takes_int64 (n : Int64) : Takes int64 style (.number n.toInt) n := by
  intro depth blanks rest allBlank stops
  have least := n.le_toInt
  have greatest := n.toInt_lt
  rw [Value.chars, int64, numberAs]
  by_cases negative : n.toInt < 0
  · have inRange : ¬ (n.toInt.natAbs = 0 ∨ 9223372036854775808 < n.toInt.natAbs) := by omega
    have size : n.toInt.natAbs < 2 ^ 64 := by omega
    have value : -(n.toInt.natAbs : Int) = n.toInt := by omega
    have taken := unsignedNumber_toDigits (show n.toInt.natAbs < UInt64.size by simpa using size)
      stops true
    rw [Script.toList_toString_of_neg negative, number, dropBlanks_append allBlank, List.cons_append,
      dropBlanks_cons rfl]
    simp only [taken, wholeNumber, inRange, ↓reduceIte, UInt64.toNat_ofNat_of_lt' size, value,
      Int64.ofInt_toInt, bind, Except.bind]
    rfl
  · have size : n.toInt.toNat < 2 ^ 64 := by omega
    rw [Script.toList_toString_of_nonneg (by omega),
      number_toDigits (by simpa using size) allBlank stops]
    have within : n.toInt.toNat ≤ 9223372036854775807 := by omega
    have value : (n.toInt.toNat : Int) = n.toInt := by omega
    simp only [bind, Except.bind, UInt64.toNat_ofNat_of_lt' size, within, ↓reduceIte, value,
      Int64.ofInt_toInt]
    rfl

end MockData.Json
