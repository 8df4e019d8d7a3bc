import MockData.Proofs.Expressions
import MockData.Proofs.Numerals

/-!
The matchers of a field against its expression: what they take from the front of a text is a slice
that the expression matches, and where it matches one they take this slice, with the digits and the
point that a number may go on with.
-/
namespace MockData

open Text Script

namespace Field

theorem isDigit_of_mem_takeDigits {cs : List Char} : ∀ c ∈ (takeDigits cs).1, isDigit c :=
  List.all_eq_true.mp List.all_takeWhile

theorem isDigits_of_takeDigits {cs ds rest : List Char} (taken : takeDigits cs = (ds, rest))
    (nonempty : ds ≠ []) : IsDigits ds := by
  have digits : ∀ c ∈ (takeDigits cs).1, isDigit c := isDigit_of_mem_takeDigits
  rw [taken] at digits
  exact ⟨nonempty, digits⟩

theorem takeDigits_append_of_isDigit {ds : List Char} (digits : ∀ c ∈ ds, isDigit c)
    (cs : List Char) : takeDigits (ds ++ cs) = (ds ++ (takeDigits cs).1, (takeDigits cs).2) := by
  rw [takeDigits, List.takeWhile_append_of_pos digits, List.dropWhile_append_of_pos digits]
  rfl

variable {kind : FieldKind} {cs rest : List Char} {capture : Capture}

theorem isDecimal_of_decimalNumber (matched : decimalNumber cs = some (capture, rest)) :
    IsDecimal capture.written ∧ capture.written.getLast? = capture.last? := by
  rw [decimalNumber] at matched
  split at matched
  · split at matched
    · cases matched
    · rename_i nonempty taken
      cases matched
      exact ⟨.inr ⟨_, isDigits_of_takeDigits taken nonempty, rfl⟩, rfl⟩
  · cases matched
  · rename_i nonempty taken
    cases matched
    have whole := isDigits_of_takeDigits taken nonempty
    exact ⟨.inl ⟨_, whole, .inr ⟨_, isDigit_of_mem_takeDigits, rfl⟩⟩, rfl⟩
  · rename_i nonempty _ taken
    cases matched
    exact ⟨.inl ⟨_, isDigits_of_takeDigits taken nonempty, .inl rfl⟩, rfl⟩

theorem isLiteral_of_stringLiteral (matched : stringLiteral cs = some (capture, rest)) :
    IsLiteral capture.written ∧ capture.written.getLast? = capture.last? := by
  rw [stringLiteral.eq_def] at matched
  split at matched
  · obtain ⟨⟨body, rest'⟩, read, found⟩ := Option.map_eq_some_iff.mp matched
    cases found
    refine ⟨⟨body, rfl, isBody_of_literalBody read⟩, ?_⟩
    rw [Capture.written, ← List.cons_append, List.getLast?_concat]
    rfl
  · cases matched

theorem isValue_of_matchValue (matched : matchValue kind cs = some (capture, rest)) :
    IsValue kind capture.written rest.head? ∧ capture.written.getLast? = capture.last? := by
  cases kind with
  | text => exact isLiteral_of_stringLiteral matched
  | nullable =>
    rw [matchValue, Option.or_eq_some_iff] at matched
    rcases matched with isNull | ⟨-, isText⟩
    · rw [nullWord.eq_def] at isNull
      split at isNull
      · split at isNull
        · rename_i edge
          cases isNull
          exact ⟨.inl ⟨rfl, edge⟩, rfl⟩
        · cases isNull
      · cases isNull
    · obtain ⟨isLiteral, last⟩ := isLiteral_of_stringLiteral isText
      exact ⟨.inr isLiteral, last⟩
  | unsigned =>
    rw [matchValue, wholeNumber] at matched
    split at matched
    · cases matched
    · rename_i nonempty taken
      cases matched
      exact ⟨isDigits_of_takeDigits taken nonempty, rfl⟩
  | decimal => exact isDecimal_of_decimalNumber matched

def GoesOn (cs : List Char) : Prop := ∀ c ∈ cs, isDigit c ∨ c = '.'

theorem goesOn_of_isDigit {ds : List Char} (digits : ∀ c ∈ ds, isDigit c) : GoesOn ds :=
  fun c member => .inl (digits c member)

theorem stringLiteral_of_isLiteral {value : List Char} (isLiteral : IsLiteral value)
    (back : List Char) : ∃ capture, stringLiteral (value ++ back) = some (capture, back) ∧
      nullWord (value ++ back) = none := by
  obtain ⟨body, rfl, isBody⟩ := isLiteral
  refine ⟨.text body, ?_, ?_⟩
  · simp [stringLiteral, isBody back]
  · simp [nullWord]

theorem wholeNumber_of_isDigits {ds : List Char} (isDigits : IsDigits ds) (back : List Char) :
    ∃ capture, wholeNumber (ds ++ back) = some (capture, (takeDigits back).2) := by
  obtain ⟨nonempty, digits⟩ := isDigits
  cases ds with
  | nil => contradiction
  | cons d ds =>
    exact ⟨_, by rw [wholeNumber, takeDigits_append_of_isDigit digits]; rfl⟩

theorem takeDigits_point (cs : List Char) : takeDigits ('.' :: cs) = ([], '.' :: cs) := rfl

theorem decimalNumber_of_takeDigits {d : Char} {ds rest : List Char}
    (taken : takeDigits cs = (d :: ds, rest)) : ∃ capture more rest',
      decimalNumber cs = some (capture, rest') ∧ rest = more ++ rest' ∧ GoesOn more := by
  rw [decimalNumber, taken]
  cases rest with
  | nil => exact ⟨_, [], [], rfl, rfl, by simp [GoesOn]⟩
  | cons c rest =>
    by_cases point : c = '.'
    · subst point
      refine ⟨_, '.' :: (takeDigits rest).1, (takeDigits rest).2, rfl, ?_, ?_⟩
      · rw [List.cons_append, takeDigits_append]
      · exact List.forall_mem_cons.mpr ⟨.inr rfl, goesOn_of_isDigit isDigit_of_mem_takeDigits⟩
    · exact ⟨.decimal (d :: ds), [], c :: rest, by simp [point], rfl, by simp [GoesOn]⟩

theorem decimalNumber_of_isDecimal {value : List Char} (isDecimal : IsDecimal value)
    (back : List Char) : ∃ capture more rest,
      decimalNumber (value ++ back) = some (capture, rest) ∧ back = more ++ rest ∧ GoesOn more := by
  have whole := takeDigits_append back
  have front : GoesOn (takeDigits back).1 := goesOn_of_isDigit isDigit_of_mem_takeDigits
  rcases isDecimal with
    ⟨ds, ⟨nonempty, digits⟩, rfl | ⟨fs, digits', rfl⟩⟩ | ⟨fs, ⟨nonempty, digits⟩, rfl⟩
  · cases value with
    | nil => contradiction
    | cons d ds =>
      obtain ⟨capture, more, rest, read, split, goesOn⟩ :=
        decimalNumber_of_takeDigits (takeDigits_append_of_isDigit digits back)
      refine ⟨capture, (takeDigits back).1 ++ more, rest, read, ?_, ?_⟩
      · rw [List.append_assoc, ← split, whole]
      · exact List.forall_mem_append.mpr ⟨front, goesOn⟩
  · have fraction := takeDigits_append_of_isDigit digits' back
    cases ds with
    | nil => contradiction
    | cons d ds =>
      have taken : takeDigits (d :: ds ++ ('.' :: (fs ++ back))) =
          (d :: ds, '.' :: (fs ++ back)) := by
        rw [takeDigits_append_of_isDigit digits, takeDigits_point, List.append_nil]
      have layout : d :: ds ++ '.' :: fs ++ back = d :: ds ++ ('.' :: (fs ++ back)) := by simp
      refine ⟨.decimal (d :: ds ++ '.' :: (fs ++ (takeDigits back).1)), (takeDigits back).1,
        (takeDigits back).2, ?_, whole.symm, front⟩
      rw [layout, decimalNumber, taken]
      simp only [fraction]
  · have fraction := takeDigits_append_of_isDigit digits back
    cases fs with
    | nil => contradiction
    | cons d fs =>
      refine ⟨.decimal ('.' :: (d :: fs ++ (takeDigits back).1)), (takeDigits back).1,
        (takeDigits back).2, ?_, whole.symm, front⟩
      rw [List.cons_append, decimalNumber, takeDigits_point]
      simp only [fraction]
      rfl

/-- Where a value stands, one is taken: all of it, and what a number goes on with. -/
theorem matchValue_of_isValue {value back : List Char} (isValue : IsValue kind value back.head?) :
    ∃ capture more rest, matchValue kind (value ++ back) = some (capture, rest) ∧
      back = more ++ rest ∧ GoesOn more := by
  have nothing : GoesOn [] := by simp [GoesOn]
  cases kind with
  | text =>
    obtain ⟨capture, read, -⟩ := stringLiteral_of_isLiteral isValue back
    exact ⟨capture, [], back, read, rfl, nothing⟩
  | nullable =>
    rcases isValue with ⟨rfl, edge⟩ | isLiteral
    · refine ⟨.null, [], back, ?_, rfl, nothing⟩
      simp [matchValue, nullWord, edge]
    · obtain ⟨capture, read, notNull⟩ := stringLiteral_of_isLiteral isLiteral back
      exact ⟨capture, [], back, by rw [matchValue, notNull, read, Option.none_or], rfl, nothing⟩
  | unsigned =>
    obtain ⟨capture, read⟩ := wholeNumber_of_isDigits isValue back
    exact ⟨capture, _, _, read, (takeDigits_append back).symm,
      goesOn_of_isDigit isDigit_of_mem_takeDigits⟩
  | decimal => exact decimalNumber_of_isDecimal isValue back

theorem goesOn_of_isDecimal (isDecimal : IsDecimal cs) : GoesOn cs := by
  rcases isDecimal with ⟨ds, isDigits, rfl | ⟨fs, digits, rfl⟩⟩ | ⟨fs, isDigits, rfl⟩
  · exact goesOn_of_isDigit isDigits.2
  · exact List.forall_mem_append.mpr ⟨goesOn_of_isDigit isDigits.2,
      List.forall_mem_cons.mpr ⟨.inr rfl, goesOn_of_isDigit digits⟩⟩
  · exact List.forall_mem_cons.mpr ⟨.inr rfl, goesOn_of_isDigit isDigits.2⟩

theorem isDecimal_ne_nil (isDecimal : IsDecimal cs) : cs ≠ [] := by
  rcases isDecimal with ⟨ds, isDigits, rfl | ⟨fs, -, rfl⟩⟩ | ⟨fs, -, rfl⟩
  · exact isDigits.1
  · simp
  · simp

theorem isBlank_eq_false {c : Char} (goesOn : ¬ Ends c) : isBlank c = false :=
  Bool.eq_false_iff.mpr fun blank => goesOn (ends_of_isBlank blank)

theorem exists_cons_of_isValue {value : List Char} {after : Option Char}
    (isValue : IsValue kind value after) : ∃ c cs, value = c :: cs ∧ isBlank c = false := by
  have number : value ≠ [] → GoesOn value → ∃ c cs, value = c :: cs ∧ isBlank c = false := by
    intro nonempty goesOn
    cases value with
    | nil => contradiction
    | cons c cs =>
      refine ⟨c, cs, rfl, isBlank_eq_false fun ends => ?_⟩
      rcases goesOn c (by simp) with digit | point
      · simp [ends.digit] at digit
      · exact ends.point point
  cases kind with
  | text =>
    obtain ⟨body, rfl, -⟩ := isValue
    exact ⟨'"', _, rfl, rfl⟩
  | nullable =>
    rcases isValue with ⟨rfl, -⟩ | ⟨body, rfl, -⟩
    · exact ⟨'n', _, rfl, rfl⟩
    · exact ⟨'"', _, rfl, rfl⟩
  | unsigned => exact number isValue.1 (goesOn_of_isDigit isValue.2)
  | decimal => exact number (isDecimal_ne_nil isValue) (goesOn_of_isDecimal isValue)

variable {f : Field} {before : Option Char}

theorem isBoundary_of_matchHere {name : List Char}
    (matched : matchHere name kind before cs = some (capture, rest)) :
    isBoundary before cs.head? := by
  rw [matchHere] at matched
  split at matched
  · cases matched
  · split at matched
    · assumption
    · cases matched

theorem exists_slice_of_matchHere
    (matched : matchHere f.name.toList f.kind before cs = some (capture, rest)) :
    ∃ slice, cs = slice ++ rest ∧ f.expression.Matches before slice rest.head? ∧
      slice ≠ [] ∧ slice.getLast? = capture.last? := by
  have boundary := isBoundary_of_matchHere matched
  obtain ⟨behind, value, split, colon, found⟩ := matchHere_eq_some matched
  obtain ⟨blanks, behindSplit, allBlank⟩ := exists_blanks colon
  obtain ⟨blanks', valueSplit, allBlank'⟩ := exists_blanks (matchValue_eq_some found).1
  obtain ⟨isValue, last⟩ := isValue_of_matchValue found
  obtain ⟨v, vs, written, -⟩ := exists_cons_of_isValue isValue
  have whole : cs = f.name.toList ++ (blanks ++ ':' :: (blanks' ++ capture.written)) ++ rest := by
    rw [split, behindSplit, valueSplit]
    simp
  refine ⟨_, whole, matches_expression_iff.mpr ⟨?_, blanks, blanks', _, rfl, allBlank, allBlank',
    isValue⟩, by simp, ?_⟩
  · rwa [← List.head?_append, ← whole]
  · have ends : ∀ front, (front ++ capture.written).getLast? = capture.last? := by
      intro front
      rw [List.getLast?_append_of_ne_nil front (by simp [written]), last]
    rw [← ends (f.name.toList ++ (blanks ++ ':' :: blanks'))]
    simp

theorem matchHere_of_matches {slice back : List Char}
    (matched : f.expression.Matches before slice back.head?) : ∃ capture more rest,
      matchHere f.name.toList f.kind before (slice ++ back) = some (capture, rest) ∧
        back = more ++ rest ∧ GoesOn more := by
  obtain ⟨edge, blanks, blanks', value, rfl, allBlank, allBlank', isValue⟩ :=
    matches_expression_iff.mp matched
  obtain ⟨c, cs, isCons, full⟩ := exists_cons_of_isValue isValue
  obtain ⟨capture, more, rest, read, split, goesOn⟩ := matchValue_of_isValue isValue
  rw [← List.head?_append] at edge
  simp only [List.append_assoc, List.cons_append] at edge ⊢
  have behind : dropBlanks (blanks' ++ (value ++ back)) = value ++ back := by
    rw [dropBlanks_append allBlank', isCons, List.cons_append, dropBlanks_cons full]
  refine ⟨capture, more, rest, ?_, split, goesOn⟩
  rw [matchHere_append edge f.kind allBlank, behind, read]

end Field

end MockData
