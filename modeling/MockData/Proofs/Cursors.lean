import Mathlib.Data.List.Chain
import MockData.Proofs.Occurrences

/-!
Whether the search finds all fields of a pattern that a block has. It takes each field at the first
place behind the one before it. No choice of later places can do better, with one exception: the
first place of a nullable field may have a string in which the same field stands again, with a bare
null and with the fields behind it.
-/
namespace MockData

open Text Script

namespace Field

theorem isChain_of_isBody {body : List Char} (isBody : IsBody body) :
    body.IsChain (fun c d => d = '"' → c = '\\') ∧ body.head? ≠ some '"' := by
  have matched : FieldKind.literalBody.Matches none body none := matches_literalBody_iff.mpr isBody
  refine matched.repeated (P := fun body =>
    body.IsChain (fun c d => d = '"' → c = '\\') ∧ body.head? ≠ some '"') (by simp) ?_
  rintro _ t _ u first ⟨chain, head⟩
  rcases Expression.matches_either_iff.mp first with plain | escape
  · obtain ⟨c, rfl, allowed⟩ := Expression.matches_one_iff.mp plain
    simp only [Bool.and_eq_true, bne_iff_ne] at allowed
    refine ⟨List.isChain_append.mpr ⟨by simp, chain, ?_⟩, by simpa using allowed.1⟩
    intro _ _ d isHead quote
    exact absurd (quote ▸ isHead) head
  · simp only [Expression.matches_seq_iff, Expression.matches_one_iff, beq_iff_eq] at escape
    obtain ⟨_, _, rfl, ⟨_, rfl, rfl⟩, c, rfl, -⟩ := escape
    refine ⟨List.isChain_append.mpr ⟨by simp, chain, ?_⟩, by simp⟩
    intro _ _ d isHead quote
    exact absurd (quote ▸ isHead) head

theorem eq_escape_of_isBody {front back : List Char} {c : Char}
    (isBody : IsBody (front ++ c :: '"' :: back)) : c = '\\' :=
  (List.isChain_append_cons_cons.mp (isChain_of_isBody isBody).1).2.1 rfl

theorem exists_append_of_append_eq_append_cons {front back cs tail : List Char} {c : Char}
    (same : front ++ back = cs ++ c :: tail) (other : c ∉ front) :
    ∃ more, cs = front ++ more ∧ back = more ++ c :: tail := by
  rcases List.append_eq_append_iff.mp same with ⟨more, isFront, isBack⟩ | ⟨more, rfl, isTail⟩
  · exact ⟨more, isFront, isBack⟩
  · cases more with
    | nil => exact ⟨[], by simp, by simpa using isTail.symm⟩
    | cons d more =>
      obtain ⟨rfl, -⟩ := List.cons.inj isTail
      simp at other

variable {f : Field} {before after after' : Option Char} {d slice w : List Char}

theorem exists_value_of_inner (identifier : isIdentifier f.name) (nonempty : d ≠ [])
    (outer : f.expression.Matches before (d ++ (slice ++ w)) after)
    (inner : f.expression.Matches (d.getLast?.or before) slice after') :
    ∃ front, IsValue f.kind (front ++ (slice ++ w)) after ∧
      ∀ kind, IsValue kind (front ++ (slice ++ w)) after →
        (Field.mk f.name kind).expression.Matches before (d ++ (slice ++ w)) after := by
  obtain ⟨edge, blanks, blanks', value, split, allBlank, allBlank', isValue⟩ :=
    matches_expression_iff.mp outer
  obtain ⟨edge', _, _, _, isSlice, -⟩ := matches_expression_iff.mp inner
  obtain ⟨n, ns, letters, word, notDigit⟩ := exists_letter_of_isIdentifier identifier
  obtain ⟨tail, starts⟩ : ∃ tail, slice = n :: tail := ⟨_, by rw [isSlice, letters]; rfl⟩
  -- the name of the outer slice has no boundary of words inside or behind it
  obtain ⟨d', -, behind⟩ : ∃ d', d = f.name.toList ++ d' ∧
      blanks ++ ':' :: (blanks' ++ value) = d' ++ (slice ++ w) := by
    rcases List.append_eq_append_iff.mp split with ⟨more, inName, -⟩ | found
    · have last : isWord (d.getLast nonempty) := isWord_of_isAsciiWord
        ((isAsciiWord_of_isIdentifier identifier).2 _ (by simp [inName]))
      rw [List.getLast?_eq_some_getLast nonempty, starts] at edge'
      simp [isBoundary, last, word] at edge'
    · exact found
  have apart : n ∉ blanks ++ ':' :: blanks' := by
    have notBlank : isBlank n = false := isBlank_eq_false fun ends => by simp [ends.word] at word
    have other : ∀ bs : List Char, (∀ c ∈ bs, isBlank c) → n ∉ bs := by
      intro bs all member
      rw [all n member] at notBlank
      cases notBlank
    have notColon : n ≠ ':' := by
      rintro rfl
      revert word
      decide
    simp [notColon, other blanks allBlank, other blanks' allBlank']
  have layout : (blanks ++ ':' :: blanks') ++ value = d' ++ n :: (tail ++ w) := by
    rw [List.append_assoc, List.cons_append, behind, starts, List.cons_append]
  obtain ⟨front, -, isFront⟩ := exists_append_of_append_eq_append_cons layout apart
  have isFront : value = front ++ (slice ++ w) := by rw [isFront, starts, List.cons_append]
  subst isFront
  exact ⟨front, isValue, fun kind isValue' => matches_expression_iff.mpr
    ⟨edge, blanks, blanks', _, split, allBlank, allBlank', isValue'⟩⟩

theorem not_isLiteral_of_inner {front name blanks blanks' value w : List Char}
    (nonempty : name ≠ [])
    (allBlank : ∀ c ∈ blanks', isBlank c)
    (outer : IsLiteral (front ++ (name ++ (blanks ++ ':' :: (blanks' ++ value)) ++ w))) :
    ¬ IsLiteral value := by
  rintro ⟨body', rfl, -⟩
  obtain ⟨body, whole, isBody⟩ := outer
  obtain ⟨first, firsts, starts⟩ := List.exists_cons_of_ne_nil
    (List.append_ne_nil_of_right_ne_nil front nonempty)
  obtain ⟨m, c, ends, notEscape⟩ : ∃ m c, ':' :: blanks' = m ++ [c] ∧ c ≠ '\\' := by
    refine ⟨_, _, (List.dropLast_concat_getLast (List.cons_ne_nil ':' blanks')).symm, ?_⟩
    rcases List.mem_cons.mp (List.getLast_mem (List.cons_ne_nil ':' blanks')) with colon | member
    · rw [colon]
      decide
    · intro escape
      have blank := allBlank _ member
      rw [escape] at blank
      revert blank
      decide
  have layout : first :: (firsts ++ (blanks ++ m) ++ c :: '"' :: (body' ++ '"' :: w)) =
      '"' :: (body ++ ['"']) := by
    have split : front ++ (name ++ (blanks ++ ':' :: (blanks' ++ '"' :: (body' ++ ['"']))) ++ w) =
        (front ++ name) ++ (blanks ++ ((':' :: blanks') ++ '"' :: (body' ++ '"' :: w))) := by simp
    rw [← whole, split, starts, ends]
    simp
  obtain ⟨-, layout⟩ := List.cons.inj layout
  have inBody := congrArg List.dropLast layout
  rw [List.dropLast_concat, List.dropLast_append_of_ne_nil (by simp), List.dropLast_cons_cons,
    List.dropLast_cons_of_ne_nil (by simp)] at inBody
  exact notEscape (eq_escape_of_isBody (inBody ▸ isBody))

theorem nullable_of_inner (identifier : isIdentifier f.name) (nonempty : d ≠ [])
    (outer : f.expression.Matches before (d ++ (slice ++ w)) after)
    (inner : f.expression.Matches (d.getLast?.or before) slice after') : f.kind = .nullable ∧
      (Field.mk f.name .text).expression.Matches before (d ++ (slice ++ w)) after := by
  obtain ⟨front, isValue, asKind⟩ := exists_value_of_inner identifier nonempty outer inner
  obtain ⟨-, blanks, blanks', value, rfl, -, allBlank', isValue'⟩ := matches_expression_iff.mp inner
  have notNumber : ¬ GoesOn
      (front ++ (f.name.toList ++ (blanks ++ ':' :: (blanks' ++ value)) ++ w)) := by
    intro goesOn
    rcases goesOn ':' (by simp) with digit | point
    · revert digit
      decide
    · cases point
  have notString : IsLiteral
      (front ++ (f.name.toList ++ (blanks ++ ':' :: (blanks' ++ value)) ++ w)) → ¬ IsLiteral value :=
    not_isLiteral_of_inner (isAsciiWord_of_isIdentifier identifier).1 allBlank'
  obtain ⟨name, kind⟩ := f
  cases kind with
  | text => exact absurd isValue' (notString isValue)
  | nullable =>
    rcases isValue with ⟨isNull, -⟩ | isLiteral
    · have colon : ':' ∈ ['n', 'u', 'l', 'l'] := by
        rw [← isNull]
        simp
      simp at colon
    · exact ⟨rfl, asKind .text isLiteral⟩
  | unsigned => exact absurd (goesOn_of_isDigit isValue.2) notNumber
  | decimal => exact absurd (goesOn_of_isDecimal isValue) notNumber

def MatchAt (f : Field) (block : List Char) (start stop : Nat) : Prop :=
  ∃ front slice back, block = front ++ (slice ++ back) ∧ front.length = start ∧
    (front ++ slice).length = stop ∧ f.expression.Matches front.getLast? slice back.head?

theorem exists_inner {front back front' slice' back' : List Char}
    (same : front ++ (slice ++ back) = front' ++ (slice' ++ back'))
    (later : front.length < front'.length)
    (within : (front' ++ slice').length ≤ (front ++ slice).length) :
    ∃ d w, d ≠ [] ∧ front' = front ++ d ∧ slice = d ++ (slice' ++ w) := by
  rcases List.append_eq_append_iff.mp same with ⟨d, rfl, inside⟩ | ⟨d, rfl, -⟩
  · have nonempty : d ≠ [] := by
      rintro rfl
      simp at later
    rw [← List.append_assoc] at inside
    rcases List.append_eq_append_iff.mp inside with ⟨w, longer, -⟩ | ⟨w, rfl, -⟩
    · have lengths := congrArg List.length longer
      simp only [List.length_append] at lengths within
      obtain rfl : w = [] := List.eq_nil_of_length_eq_zero (by omega)
      exact ⟨d, [], nonempty, rfl, by simpa using longer.symm⟩
    · exact ⟨d, w, nonempty, rfl, by simp⟩
  · simp only [List.length_append] at later
    omega

variable {block : List Char} {start stop : Nat}

theorem MatchAt.lt_or_text (identifier : isIdentifier f.name) {p e : Nat}
    (first : f.MatchAt block p e) (second : f.MatchAt block start stop) (later : p < start) :
    e < stop ∨ (f.kind = .nullable ∧ (Field.mk f.name .text).MatchAt block p e) := by
  obtain ⟨front, slice, back, rfl, rfl, rfl, outer⟩ := first
  obtain ⟨front', slice', back', same, rfl, rfl, inner⟩ := second
  by_cases short : (front ++ slice).length < (front' ++ slice').length
  · exact .inl short
  · obtain ⟨d, w, nonempty, rfl, rfl⟩ := exists_inner same later (by omega)
    rw [List.getLast?_append] at inner
    obtain ⟨nullable, text⟩ := nullable_of_inner identifier nonempty outer inner
    exact .inr ⟨nullable, front, _, back, rfl, rfl, rfl, text⟩

variable {front gap cs rest : List Char} {capture : Capture}

/-- What a search from behind `front` finds: a slice that the expression matches, behind a gap with
no place for it. -/
structure Found (f : Field) (front gap slice rest : List Char) (capture : Capture) : Prop where
  misses : Misses f.name.toList f.kind front.getLast? gap (slice ++ rest)
  here : matchHere f.name.toList f.kind (front ++ gap).getLast? (slice ++ rest) =
    some (capture, rest)
  matched : f.expression.Matches (front ++ gap).getLast? slice rest.head?
  nonempty : slice ≠ []
  last : (front ++ gap ++ slice).getLast? = capture.last?

theorem exists_found_of_search
    (found : search f.name.toList f.kind front.getLast? cs = some (capture, rest)) :
    ∃ gap slice, cs = gap ++ (slice ++ rest) ∧ Found f front gap slice rest capture := by
  obtain ⟨gap, tail, rfl, misses, here⟩ := exists_misses_of_search found
  rw [← List.getLast?_append] at here
  obtain ⟨slice, rfl, matched, nonempty, last⟩ := exists_slice_of_matchHere here
  exact ⟨gap, slice, rfl, misses, here, matched, nonempty,
    by rw [List.getLast?_append_of_ne_nil _ nonempty, last]⟩

namespace Found

theorem matchAt (found : Found f front gap slice rest capture) :
    f.MatchAt (front ++ (gap ++ (slice ++ rest))) (front ++ gap).length
      (front ++ gap ++ slice).length :=
  ⟨front ++ gap, slice, rest, by simp, rfl, rfl, found.matched⟩

theorem length_le (found : Found f front gap slice rest capture) {ahead tail : List Char}
    {result : Capture × List Char} (same : gap ++ (slice ++ rest) = ahead ++ tail)
    (there : matchHere f.name.toList f.kind (front ++ ahead).getLast? tail = some result) :
    gap.length ≤ ahead.length := by
  by_contra passed
  obtain ⟨g, rfl⟩ : ∃ g, gap = ahead ++ g :=
    (List.prefix_of_prefix_length_le ⟨_, same.symm⟩ ⟨_, rfl⟩ (by omega)).imp fun _ => Eq.symm
  have nonempty : g ≠ [] := by
    rintro rfl
    simp at passed
  obtain rfl : g ++ (slice ++ rest) = tail := by simpa using same
  have missed := found.misses ahead g rfl nonempty
  rw [← List.getLast?_append, there] at missed
  cases missed

end Found

/-- How far a search may get that could have stopped at `stop`: not behind it, or by what a number
goes on with, or to the end of a string that starts before `start`. -/
inductive Reaches (f : Field) (block : List Char) (start stop : Nat) : List Char → Prop
  | within {front : List Char} (short : front.length ≤ stop) : Reaches f block start stop front
  | goesOn {front more : List Char} (ends : front.length = stop) (goesOn : GoesOn more) :
      Reaches f block start stop (front ++ more)
  | text {front : List Char} {p : Nat} (nullable : f.kind = .nullable) (before : p < start)
      (matched : (Field.mk f.name .text).MatchAt block p front.length) :
      Reaches f block start stop front

theorem Found.reaches (identifier : isIdentifier f.name)
    (found : Found f front gap slice rest capture) {ahead slice' back' : List Char}
    (same : gap ++ (slice ++ rest) = ahead ++ (slice' ++ back'))
    (matched : f.expression.Matches (front ++ ahead).getLast? slice' back'.head?) :
    Reaches f (front ++ (ahead ++ (slice' ++ back'))) (front ++ ahead).length
      (front ++ ahead ++ slice').length (front ++ gap ++ slice) := by
  obtain ⟨capture', more, rest', there, rfl, goesOn⟩ := matchHere_of_matches matched
  rcases Nat.lt_or_eq_of_le (found.length_le same there) with earlier | level
  · have earlier : (front ++ gap).length < (front ++ ahead).length := by simpa using earlier
    have first := found.matchAt
    rw [same] at first
    have second : f.MatchAt (front ++ (ahead ++ (slice' ++ (more ++ rest'))))
        (front ++ ahead).length (front ++ ahead ++ slice').length :=
      ⟨front ++ ahead, slice', more ++ rest', by simp, rfl, rfl, matched⟩
    rcases first.lt_or_text identifier second earlier with short | ⟨nullable, text⟩
    · exact .within (Nat.le_of_lt short)
    · exact .text nullable earlier text
  · obtain ⟨rfl, tails⟩ := List.append_inj same level
    rw [← tails, found.here] at there
    cases there
    rw [← List.append_assoc] at tails
    rw [List.append_cancel_right tails, ← List.append_assoc (front ++ gap)]
    exact .goesOn rfl goesOn

theorem search_of_matchAt (identifier : isIdentifier f.name)
    (matched : f.MatchAt (front ++ cs) start stop) (behind : front.length ≤ start) :
    ∃ capture rest front', search f.name.toList f.kind front.getLast? cs = some (capture, rest) ∧
      front ++ cs = front' ++ rest ∧ front'.getLast? = capture.last? ∧
      Reaches f (front ++ cs) start stop front' := by
  obtain ⟨front', slice', back', same, rfl, rfl, matched⟩ := matched
  obtain ⟨ahead, rfl⟩ : ∃ ahead, front' = front ++ ahead :=
    (List.prefix_of_prefix_length_le ⟨cs, rfl⟩ ⟨_, same.symm⟩ behind).imp fun _ => Eq.symm
  obtain rfl : cs = ahead ++ (slice' ++ back') := by simpa using same
  cases found : search f.name.toList f.kind front.getLast? (ahead ++ (slice' ++ back')) with
  | none =>
    obtain ⟨_, _, _, there, -⟩ := matchHere_of_matches matched
    rw [List.getLast?_append, matchHere_of_search_eq_none found] at there
    cases there
  | some result =>
    obtain ⟨capture, rest⟩ := result
    obtain ⟨gap, slice, layout, found⟩ := exists_found_of_search found
    exact ⟨capture, rest, front ++ gap ++ slice, rfl, by simp [layout], found.last,
      found.reaches identifier layout.symm matched⟩

theorem length_le_of_goesOn (identifier : isIdentifier f.name) {front more rest : List Char}
    (goesOn : GoesOn more) (matched : f.MatchAt (front ++ more ++ rest) start stop)
    (behind : front.length ≤ start) : (front ++ more).length ≤ start := by
  obtain ⟨front', slice, back, same, rfl, -, expected⟩ := matched
  obtain ⟨-, _, _, _, rfl, -⟩ := matches_expression_iff.mp expected
  obtain ⟨n, ns, letters, word, notDigit⟩ := exists_letter_of_isIdentifier identifier
  by_contra inside
  have letter := congrArg (·[front'.length]?) same
  rw [letters] at letter
  simp only [List.append_assoc, List.cons_append, List.getElem?_append_right behind,
    List.getElem?_append_right (Nat.le_refl _), Nat.sub_self, List.getElem?_cons_zero] at letter
  rw [List.getElem?_append_left (by simp only [List.length_append] at inside; omega)] at letter
  rcases goesOn n (List.mem_of_getElem? letter) with digit | rfl
  · rw [notDigit] at digit
    cases digit
  · revert word
    decide

theorem isSome_decimalValue {ds : List Char} (isDecimal : IsDecimal ds)
    (ascii : ∀ c ∈ ds, isDigit c → isAsciiDigit c) : (Capture.decimalValue? ds).isSome := by
  have all : (ds.filter (· ≠ '.')).all isAsciiDigit := by
    rw [List.all_eq_true]
    intro c member
    obtain ⟨member, notPoint⟩ := List.mem_filter.mp member
    rcases goesOn_of_isDecimal isDecimal c member with digit | point
    · exact ascii c member digit
    · simp [point] at notPoint
  rw [Capture.decimalValue?, if_pos all]
  rfl

theorem mem_of_mem_dropBlanks {c : Char} (member : c ∈ dropBlanks cs) : c ∈ cs :=
  (List.dropWhile_sublist isBlank).subset member

theorem isSome_value_of_search {name : List Char} {kind : FieldKind}
    (found : search name kind before cs = some (capture, rest))
    (ascii : ∀ c ∈ cs, isDigit c → isAsciiDigit c) : capture.value?.isSome := by
  obtain ⟨gap, _, back, rfl, here⟩ := exists_matchHere_of_search found
  obtain ⟨behind, value, rfl, colon, read⟩ := matchHere_eq_some here
  obtain ⟨written, ofKind⟩ := matchValue_eq_some read
  cases capture with
  | text | null | unsigned => rfl
  | decimal ds =>
    cases kind with
    | text | nullable | unsigned => cases ofKind
    | decimal =>
      have inBlock : ∀ c ∈ ds, c ∈ gap ++ (name ++ behind) := by
        intro c member
        have taken : c ∈ dropBlanks value := by
          rw [written]
          exact List.mem_append_left rest member
        have inBehind : c ∈ dropBlanks behind := by simp [colon, mem_of_mem_dropBlanks taken]
        simp [mem_of_mem_dropBlanks inBehind]
      rw [Capture.value?, Option.isSome_map]
      exact isSome_decimalValue (isDecimal_of_decimalNumber read).1
        fun c member => ascii c (inBlock c member)

end Field

namespace BlockPattern

open MockData.Field

inductive InOrder (block : List Char) : List Field → (cursor : Nat) → List (Nat × Nat) → Prop
  | nil {cursor : Nat} : InOrder block [] cursor []
  | cons {f : Field} {fs : List Field} {cursor start stop : Nat} {spans : List (Nat × Nat)}
      (behind : cursor ≤ start) (nonempty : start < stop) (matched : f.MatchAt block start stop)
      (later : InOrder block fs stop spans) :
      InOrder block (f :: fs) cursor ((start, stop) :: spans)

/-- No string that a nullable field may take from a place before its own reaches into the place of
the next field. Any such place counts: the search may come to it, for it may find the fields before
at earlier places than theirs. -/
def Exposed (block : List Char) : List Field → List (Nat × Nat) → Prop
  | f :: fs, (start, _) :: (next, stop) :: spans =>
    (f.kind = .nullable → ∀ p e, (Field.mk f.name .text).MatchAt block p e → p < start → e ≤ next) ∧
      Exposed block fs ((next, stop) :: spans)
  | _, _ => True

variable {fields : List Field} {front cs : List Char}

theorem exists_inOrder_of_matchFields {values : Values}
    (matched : matchFields fields front.getLast? cs = some values) :
    ∃ spans, InOrder (front ++ cs) fields front.length spans := by
  induction fields generalizing front cs values with
  | nil => exact ⟨[], .nil⟩
  | cons f fields ih =>
    simp only [matchFields, Option.bind_eq_bind, Option.bind_eq_some_iff] at matched
    obtain ⟨⟨capture, rest⟩, found, _, -, later, others, -⟩ := matched
    obtain ⟨gap, slice, rfl, taken⟩ := exists_found_of_search found
    rw [← taken.last] at others
    obtain ⟨spans, inOrder⟩ := ih others
    have layout : front ++ gap ++ slice ++ rest = front ++ (gap ++ (slice ++ rest)) := by simp
    rw [layout] at inOrder
    have longer : 0 < slice.length := List.length_pos_iff.mpr taken.nonempty
    exact ⟨_, .cons (by simp) (by simpa using longer) taken.matchAt inOrder⟩

theorem isSome_matchFields_of_inOrder {block : List Char} {cursor : Nat}
    {spans : List (Nat × Nat)} (identifiers : ∀ f ∈ fields, isIdentifier f.name)
    (ascii : ∀ c ∈ block, isDigit c → isAsciiDigit c)
    (inOrder : InOrder block fields cursor spans) (exposed : Exposed block fields spans)
    (layout : block = front ++ cs) (behind : ∀ span ∈ spans.head?, front.length ≤ span.1) :
    (matchFields fields front.getLast? cs).isSome := by
  induction inOrder generalizing front cs with
  | nil => rfl
  | @cons f fs cursor start stop spans _ _ matched later ih =>
    subst layout
    obtain ⟨identifier, identifiers⟩ := List.forall_mem_cons.mp identifiers
    obtain ⟨capture, rest, front', found, layout, last, reaches⟩ :=
      search_of_matchAt identifier matched (behind (start, stop) (by simp))
    have value := isSome_value_of_search found fun c member => ascii c (by simp [member])
    have step : Exposed (front ++ cs) fs spans ∧ ∀ span ∈ spans.head?, front'.length ≤ span.1 := by
      cases later with
      | nil => exact ⟨trivial, by simp⟩
      | @cons g fs _ next _ spans after _ matched' _ =>
        obtain ⟨bare, exposed⟩ := exposed
        refine ⟨exposed, ?_⟩
        rintro _ ⟨⟩
        cases reaches with
        | within short => exact Nat.le_trans short after
        | goesOn ends goesOn =>
          rw [layout] at matched'
          exact length_le_of_goesOn (identifiers g (by simp)) goesOn matched' (by omega)
        | text nullable before text => exact bare nullable _ _ text before
    obtain ⟨v, isValue⟩ := Option.isSome_iff_exists.mp value
    rw [matchFields_cons found isValue, Option.isSome_map, ← last]
    exact ih identifiers step.1 layout step.2

theorem exposed_of_ne_nullable {block : List Char} (bare : ∀ f ∈ fields, f.kind ≠ .nullable)
    (spans : List (Nat × Nat)) : Exposed block fields spans := by
  fun_induction Exposed block fields spans with
  | case1 f fs start stop next stop' spans ih =>
    obtain ⟨notNullable, bare⟩ := List.forall_mem_cons.mp bare
    exact ⟨fun nullable => absurd nullable notNullable, ih bare⟩
  | case2 => trivial

/-- A block that matches has the fields in order. One that has them in order matches, unless a
string hides the place of a nullable field together with the next one. -/
theorem isSome_matchText (p : BlockPattern) (block : List Char)
    (identifiers : ∀ f ∈ p.fields, isIdentifier f.name)
    (ascii : ∀ c ∈ block, isDigit c → isAsciiDigit c) :
    ((p.matchText block).isSome → ∃ spans, InOrder block p.fields 0 spans) ∧
    ((∃ spans, InOrder block p.fields 0 spans ∧ Exposed block p.fields spans) →
      (p.matchText block).isSome) ∧
    ((∀ f ∈ p.fields, f.kind ≠ .nullable) →
      ((p.matchText block).isSome ↔ ∃ spans, InOrder block p.fields 0 spans)) := by
  have sound : (p.matchText block).isSome → ∃ spans, InOrder block p.fields 0 spans := by
    intro isSome
    obtain ⟨values, matched⟩ := Option.isSome_iff_exists.mp isSome
    have matched : matchFields p.fields ([] : List Char).getLast? block = some values := matched
    exact exists_inOrder_of_matchFields matched
  have complete : ∀ spans, InOrder block p.fields 0 spans → Exposed block p.fields spans →
      (p.matchText block).isSome := by
    intro spans inOrder exposed
    have found : (matchFields p.fields ([] : List Char).getLast? block).isSome :=
      isSome_matchFields_of_inOrder identifiers ascii inOrder exposed rfl (by simp)
    exact found
  refine ⟨sound, fun ⟨spans, inOrder, exposed⟩ => complete spans inOrder exposed, ?_⟩
  intro bare
  exact ⟨sound, fun ⟨spans, inOrder⟩ => complete spans inOrder (exposed_of_ne_nullable bare spans)⟩

theorem isAsciiDigit_of_all {block : List Char}
    (all : block.all fun c => !isDigit c || isAsciiDigit c) :
    ∀ c ∈ block, isDigit c → isAsciiDigit c := by
  intro c member digit
  simpa [digit] using List.all_eq_true.mp all c member

def duePattern : BlockPattern := ⟨[⟨"due", .nullable⟩, ⟨"amount", .unsigned⟩], by simp⟩

def bareDue : List Char := "\x7b due: null, amount: 5 \x7d".toList

theorem isSome_matchText_bareDue : (∀ f ∈ duePattern.fields, isIdentifier f.name) ∧
    (∀ c ∈ bareDue, isDigit c → isAsciiDigit c) ∧ (duePattern.matchText bareDue).isSome := by
  have identifiers : ∀ f ∈ duePattern.fields, isIdentifier f.name := by decide
  have ascii : ∀ c ∈ bareDue, isDigit c → isAsciiDigit c := isAsciiDigit_of_all (by decide)
  have due : (Field.mk "due" .nullable).MatchAt bareDue 2 11 :=
    ⟨bareDue.take 2, (bareDue.drop 2).take 9, bareDue.drop 11, rfl, rfl, rfl,
      matches_expression_iff.mpr ⟨by decide, [], [' '], _, rfl, by simp,
        List.forall_mem_singleton.mpr rfl, .inl ⟨rfl, by decide⟩⟩⟩
  have amount : (Field.mk "amount" .unsigned).MatchAt bareDue 13 22 :=
    ⟨bareDue.take 13, (bareDue.drop 13).take 9, bareDue.drop 22, rfl, rfl, rfl,
      matches_expression_iff.mpr ⟨by decide, [], [' '], ['5'], rfl, by simp,
        List.forall_mem_singleton.mpr rfl, by decide, List.forall_mem_singleton.mpr rfl⟩⟩
  have exposed : Exposed bareDue duePattern.fields [(2, 11), (13, 22)] := by
    refine ⟨?_, trivial⟩
    rintro - p e ⟨front, slice, back, layout, -, -, matched⟩ -
    obtain ⟨-, blanks, blanks', _, rfl, -, -, body, rfl, -⟩ := matches_expression_iff.mp matched
    have quote : '"' ∈ bareDue := by
      rw [layout]
      simp
    exact absurd quote (by decide)
  exact ⟨identifiers, ascii, (isSome_matchText duePattern bareDue identifiers ascii).2.1
    ⟨_, .cons (by decide) (by decide) due (.cons (by decide) (by decide) amount .nil), exposed⟩⟩

def quotedDue : List Char := "\x7b due: \"x due: null, amount: 5\" \x7d".toList

theorem not_isSome_matchText_quotedDue : (∀ f ∈ duePattern.fields, isIdentifier f.name) ∧
    (∀ c ∈ quotedDue, isDigit c → isAsciiDigit c) ∧
    (∃ spans, InOrder quotedDue duePattern.fields 0 spans) ∧
    ¬ (duePattern.matchText quotedDue).isSome := by
  have due : (Field.mk "due" .nullable).MatchAt quotedDue 10 19 :=
    ⟨quotedDue.take 10, (quotedDue.drop 10).take 9, quotedDue.drop 19, rfl, rfl, rfl,
      matches_expression_iff.mpr ⟨by decide, [], [' '], _, rfl, by simp,
        List.forall_mem_singleton.mpr rfl, .inl ⟨rfl, by decide⟩⟩⟩
  have amount : (Field.mk "amount" .unsigned).MatchAt quotedDue 21 30 :=
    ⟨quotedDue.take 21, (quotedDue.drop 21).take 9, quotedDue.drop 30, rfl, rfl, rfl,
      matches_expression_iff.mpr ⟨by decide, [], [' '], ['5'], rfl, by simp,
        List.forall_mem_singleton.mpr rfl, by decide, List.forall_mem_singleton.mpr rfl⟩⟩
  refine ⟨by decide, isAsciiDigit_of_all (by decide), ⟨_, .cons (by decide) (by decide) due
    (.cons (by decide) (by decide) amount .nil)⟩, ?_⟩
  have unmatched : duePattern.matchText quotedDue = none := by rfl
  simp [unmatched]

end BlockPattern

end MockData
