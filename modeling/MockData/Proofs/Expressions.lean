import MockData.Proofs.Kinds
import MockData.Proofs.Searching

/-!
Fields as regular expressions. An expression says which slices of a text it matches, by what stands
in them and by their two neighbours; it does not say which slice a search takes. The matchers of a
field take a slice that its expression matches, and of those that start at one place the longest.
-/
namespace MockData

open Text

/-- `boundary` matches no text, where a word starts or ends. -/
inductive Expression
  | empty
  | boundary
  | one (p : Char → Bool)
  | seq (a b : Expression)
  | either (a b : Expression)
  | many (a : Expression)

namespace Expression

def word : List Char → Expression
  | [] => .empty
  | c :: cs => .seq (.one (· == c)) (word cs)

inductive Matches : Expression → Option Char → List Char → Option Char → Prop
  | empty {before after : Option Char} : Matches .empty before [] after
  | boundary {before after : Option Char} (edge : isBoundary before after) :
      Matches .boundary before [] after
  | one {p : Char → Bool} {c : Char} {before after : Option Char} (holds : p c) :
      Matches (.one p) before [c] after
  | seq {a b : Expression} {s t : List Char} {before after : Option Char}
      (first : Matches a before s (t.head?.or after))
      (second : Matches b (s.getLast?.or before) t after) : Matches (.seq a b) before (s ++ t) after
  | left {a b : Expression} {s : List Char} {before after : Option Char}
      (matched : Matches a before s after) : Matches (.either a b) before s after
  | right {a b : Expression} {s : List Char} {before after : Option Char}
      (matched : Matches b before s after) : Matches (.either a b) before s after
  | done {a : Expression} {before after : Option Char} : Matches (.many a) before [] after
  | more {a : Expression} {s t : List Char} {before after : Option Char}
      (first : Matches a before s (t.head?.or after))
      (later : Matches (.many a) (s.getLast?.or before) t after) :
      Matches (.many a) before (s ++ t) after

variable {a b : Expression} {p : Char → Bool} {s : List Char} {before after : Option Char}

theorem matches_empty_iff : empty.Matches before s after ↔ s = [] := by
  constructor
  · rintro ⟨⟩
    rfl
  · rintro rfl
    exact .empty

theorem matches_boundary_iff :
    boundary.Matches before s after ↔ s = [] ∧ isBoundary before after := by
  constructor
  · rintro ⟨⟩
    exact ⟨rfl, ‹_›⟩
  · rintro ⟨rfl, edge⟩
    exact .boundary edge

theorem matches_one_iff : (one p).Matches before s after ↔ ∃ c, s = [c] ∧ p c := by
  constructor
  · rintro ⟨⟩
    exact ⟨_, rfl, ‹_›⟩
  · rintro ⟨c, rfl, holds⟩
    exact .one holds

theorem matches_seq_iff : (seq a b).Matches before s after ↔ ∃ t u, s = t ++ u ∧
    a.Matches before t (u.head?.or after) ∧ b.Matches (t.getLast?.or before) u after := by
  constructor
  · rintro ⟨⟩
    exact ⟨_, _, rfl, ‹_›, ‹_›⟩
  · rintro ⟨t, u, rfl, first, second⟩
    exact .seq first second

theorem matches_either_iff :
    (either a b).Matches before s after ↔ a.Matches before s after ∨ b.Matches before s after := by
  constructor
  · rintro ⟨⟩
    · exact .inl ‹_›
    · exact .inr ‹_›
  · rintro (matched | matched)
    · exact .left matched
    · exact .right matched

/-- What holds of nothing, and with any match put in front, holds of all repetitions. -/
theorem Matches.repeated {P : List Char → Prop} (nothing : P [])
    (more : ∀ before t after u, a.Matches before t after → P u → P (t ++ u))
    (matched : (many a).Matches before s after) : P s := by
  generalize whole : many a = e at matched
  induction matched with
  | done => exact nothing
  | more first later _ ih =>
    cases whole
    exact more _ _ _ _ first (ih rfl)
  | empty | boundary | one | seq | left | right => cases whole

theorem matches_many_one_iff : (many (one p)).Matches before s after ↔ ∀ c ∈ s, p c := by
  constructor
  · refine Matches.repeated (P := fun s => ∀ c ∈ s, p c) (by simp) ?_
    intro _ t _ u first later
    obtain ⟨c, rfl, holds⟩ := matches_one_iff.mp first
    exact List.forall_mem_append.mpr ⟨by simpa using holds, later⟩
  · intro holds
    induction s generalizing before with
    | nil => exact .done
    | cons c s ih =>
      exact .more (s := [c]) (.one (holds c (by simp)))
        (ih fun d member => holds d (by simp [member]))

theorem matches_word_iff {cs : List Char} : (word cs).Matches before s after ↔ s = cs := by
  induction cs generalizing before s with
  | nil => exact matches_empty_iff
  | cons c cs ih =>
    simp only [word, matches_seq_iff, matches_one_iff, ih, beq_iff_eq]
    constructor
    · rintro ⟨_, _, rfl, ⟨d, rfl, rfl⟩, rfl⟩
      rfl
    · rintro rfl
      exact ⟨[c], cs, rfl, ⟨c, rfl, rfl⟩, rfl⟩

end Expression

namespace FieldKind

open Expression

def blanks : Expression := .many (.one isBlank)

def digits : Expression := .seq (.one isDigit) (.many (.one isDigit))

def literalBody : Expression :=
  .many (.either (.one fun c => c != '"' && c != '\\')
    (.seq (.one (· == '\\')) (.one (· != '\n'))))

def literal : Expression := .seq (.one (· == '"')) (.seq literalBody (.one (· == '"')))

def expression : FieldKind → Expression
  | .text => literal
  | .nullable => .either (.seq (word ['n', 'u', 'l', 'l']) .boundary) literal
  | .unsigned => digits
  | .decimal =>
    .either (.seq digits (.either (.seq (.one (· == '.')) (.many (.one isDigit))) .empty))
      (.seq (.one (· == '.')) digits)

end FieldKind

def Field.expression (f : Field) : Expression :=
  .seq .boundary (.seq (.word f.name.toList) (.seq FieldKind.blanks (.seq (.one (· == ':'))
    (.seq FieldKind.blanks f.kind.expression))))

namespace Field

def IsBody (body : List Char) : Prop :=
  ∀ rest, literalBody (body ++ '"' :: rest) = some (body, rest)

def IsLiteral (cs : List Char) : Prop := ∃ body, cs = '"' :: (body ++ ['"']) ∧ IsBody body

def IsDigits (cs : List Char) : Prop := cs ≠ [] ∧ ∀ c ∈ cs, isDigit c

def IsDecimal (cs : List Char) : Prop :=
  (∃ ds, IsDigits ds ∧ (cs = ds ∨ ∃ fs, (∀ c ∈ fs, isDigit c) ∧ cs = ds ++ '.' :: fs)) ∨
    ∃ fs, IsDigits fs ∧ cs = '.' :: fs

def IsValue : FieldKind → List Char → Option Char → Prop
  | .text, cs, _ => IsLiteral cs
  | .nullable, cs, after => (cs = ['n', 'u', 'l', 'l'] ∧ isBoundary (some 'l') after) ∨ IsLiteral cs
  | .unsigned, cs, _ => IsDigits cs
  | .decimal, cs, _ => IsDecimal cs

theorem isBody_nil : IsBody [] := fun _ => rfl

theorem isBody_cons {c : Char} {body : List Char} (notQuote : c ≠ '"') (notEscape : c ≠ '\\')
    (isBody : IsBody body) : IsBody (c :: body) := by
  intro rest
  rw [List.cons_append, Script.literalBody_cons notQuote notEscape, isBody rest, Option.map_some]

theorem isBody_escape {c : Char} {body : List Char} (notLineFeed : c ≠ '\n')
    (isBody : IsBody body) : IsBody ('\\' :: c :: body) := by
  intro rest
  simp [literalBody, notLineFeed, isBody rest]

variable {before after : Option Char} {cs : List Char}

theorem matches_literalBody {text body rest : List Char}
    (read : literalBody text = some (body, rest)) :
    FieldKind.literalBody.Matches before body after := by
  fun_induction literalBody text generalizing body rest before with
  | case1 => cases read
  | case2 rest' =>
    cases read
    exact .done
  | case3 => cases read
  | case4 c rest' notLineFeed ih =>
    obtain ⟨⟨tail, rest''⟩, readTail, result⟩ := Option.map_eq_some_iff.mp read
    cases result
    have escape : (Expression.one (· != '\n')).Matches (some '\\') [c] (tail.head?.or after) :=
      .one (by simpa using notLineFeed)
    exact .more (s := ['\\', c]) (.right (.seq (s := ['\\']) (.one rfl) escape)) (ih readTail)
  | case5 c rest' notQuote notEscape ih =>
    obtain ⟨⟨tail, rest''⟩, readTail, result⟩ := Option.map_eq_some_iff.mp read
    cases result
    have notQuote : c ≠ '"' := notQuote
    have notEscape : c ≠ '\\' := by
      rintro rfl
      cases rest' with
      | nil => cases readTail
      | cons d ds => exact notEscape d ds rfl rfl
    exact .more (s := [c]) (.left (.one (by simp [notQuote, notEscape]))) (ih readTail)

theorem matches_literalBody_iff :
    FieldKind.literalBody.Matches before cs after ↔ IsBody cs := by
  constructor
  · refine Expression.Matches.repeated (P := IsBody) isBody_nil ?_
    intro _ t _ u first isBody
    rcases Expression.matches_either_iff.mp first with plain | escape
    · obtain ⟨c, rfl, allowed⟩ := Expression.matches_one_iff.mp plain
      simp only [Bool.and_eq_true, bne_iff_ne] at allowed
      exact isBody_cons allowed.1 allowed.2 isBody
    · simp only [Expression.matches_seq_iff, Expression.matches_one_iff, beq_iff_eq,
        bne_iff_ne] at escape
      obtain ⟨_, _, rfl, ⟨_, rfl, rfl⟩, c, rfl, notLineFeed⟩ := escape
      exact isBody_escape notLineFeed isBody
  · intro isBody
    exact matches_literalBody (isBody [])

theorem isBody_of_literalBody {text body rest : List Char}
    (read : literalBody text = some (body, rest)) : IsBody body := by
  have matched : FieldKind.literalBody.Matches none body none := matches_literalBody read
  exact matches_literalBody_iff.mp matched

theorem matches_literal_iff : FieldKind.literal.Matches before cs after ↔ IsLiteral cs := by
  simp only [FieldKind.literal, Expression.matches_seq_iff, Expression.matches_one_iff,
    matches_literalBody_iff, beq_iff_eq]
  constructor
  · rintro ⟨_, _, rfl, ⟨_, rfl, rfl⟩, body, _, rfl, isBody, _, rfl, rfl⟩
    exact ⟨body, rfl, isBody⟩
  · rintro ⟨body, rfl, isBody⟩
    exact ⟨['"'], _, rfl, ⟨'"', rfl, rfl⟩, body, _, rfl, isBody, '"', rfl, rfl⟩

theorem matches_digits_iff : FieldKind.digits.Matches before cs after ↔ IsDigits cs := by
  simp only [FieldKind.digits, Expression.matches_seq_iff, Expression.matches_one_iff,
    Expression.matches_many_one_iff]
  constructor
  · rintro ⟨_, ds, rfl, ⟨c, rfl, digit⟩, digits⟩
    exact ⟨List.cons_ne_nil c ds, List.forall_mem_cons.mpr ⟨digit, digits⟩⟩
  · rintro ⟨nonempty, digits⟩
    cases cs with
    | nil => contradiction
    | cons c ds =>
      obtain ⟨digit, digits⟩ := List.forall_mem_cons.mp digits
      exact ⟨[c], ds, rfl, ⟨c, rfl, digit⟩, digits⟩

theorem matches_decimal_iff :
    FieldKind.decimal.expression.Matches before cs after ↔ IsDecimal cs := by
  simp only [FieldKind.expression, Expression.matches_either_iff, Expression.matches_seq_iff,
    Expression.matches_one_iff, Expression.matches_many_one_iff, Expression.matches_empty_iff,
    matches_digits_iff, beq_iff_eq]
  constructor
  · rintro (⟨ds, _, rfl, isDigits, ⟨_, fs, rfl, ⟨_, rfl, rfl⟩, digits⟩ | rfl⟩ |
      ⟨_, fs, rfl, ⟨_, rfl, rfl⟩, isDigits⟩)
    · exact .inl ⟨ds, isDigits, .inr ⟨fs, digits, rfl⟩⟩
    · exact .inl ⟨ds, isDigits, .inl (List.append_nil ds)⟩
    · exact .inr ⟨fs, isDigits, rfl⟩
  · rintro (⟨ds, isDigits, rfl | ⟨fs, digits, rfl⟩⟩ | ⟨fs, isDigits, rfl⟩)
    · exact .inl ⟨cs, [], by simp, isDigits, .inr rfl⟩
    · exact .inl ⟨ds, _, rfl, isDigits, .inl ⟨['.'], fs, rfl, ⟨'.', rfl, rfl⟩, digits⟩⟩
    · exact .inr ⟨['.'], fs, rfl, ⟨'.', rfl, rfl⟩, isDigits⟩

theorem matches_kind_iff {kind : FieldKind} :
    kind.expression.Matches before cs after ↔ IsValue kind cs after := by
  cases kind with
  | text => exact matches_literal_iff
  | nullable =>
    simp only [FieldKind.expression, Expression.matches_either_iff, Expression.matches_seq_iff,
      Expression.matches_word_iff, Expression.matches_boundary_iff, matches_literal_iff, IsValue]
    constructor
    · rintro (⟨_, _, rfl, rfl, rfl, edge⟩ | isLiteral)
      · exact .inl ⟨rfl, edge⟩
      · exact .inr isLiteral
    · rintro (⟨rfl, edge⟩ | isLiteral)
      · exact .inl ⟨_, [], rfl, rfl, rfl, edge⟩
      · exact .inr isLiteral
  | unsigned => exact matches_digits_iff
  | decimal => exact matches_decimal_iff

theorem matches_expression_iff {f : Field} : f.expression.Matches before cs after ↔
    isBoundary before (cs.head?.or after) ∧ ∃ blanks blanks' value,
      cs = f.name.toList ++ (blanks ++ ':' :: (blanks' ++ value)) ∧
      (∀ c ∈ blanks, isBlank c) ∧ (∀ c ∈ blanks', isBlank c) ∧ IsValue f.kind value after := by
  simp only [expression, FieldKind.blanks, Expression.matches_seq_iff,
    Expression.matches_boundary_iff, Expression.matches_word_iff,
    Expression.matches_many_one_iff, Expression.matches_one_iff, matches_kind_iff, beq_iff_eq]
  constructor
  · rintro ⟨_, _, rfl, ⟨rfl, edge⟩, _, _, rfl, rfl, blanks, _, rfl, allBlank, _, _, rfl,
      ⟨_, rfl, rfl⟩, blanks', value, rfl, allBlank', isValue⟩
    exact ⟨edge, blanks, blanks', value, rfl, allBlank, allBlank', isValue⟩
  · rintro ⟨edge, blanks, blanks', value, rfl, allBlank, allBlank', isValue⟩
    exact ⟨[], _, rfl, ⟨rfl, edge⟩, _, _, rfl, rfl, blanks, _, rfl, allBlank, [':'], _, rfl,
      ⟨':', rfl, rfl⟩, blanks', value, rfl, allBlank', isValue⟩

end Field

end MockData
