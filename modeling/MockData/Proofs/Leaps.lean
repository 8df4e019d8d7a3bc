import MockData.Proofs.Bytes

/-!
Lexing the bytes of a text from left to right, where a literal or a comment is passed over in one
go. The braces that are found in code in this way are those that the lexer has there.
-/
namespace MockData.Script

open Text

def afterLiteral (quote : UInt8) : List UInt8 → List UInt8
  | b :: c :: rest =>
    if b = '\\'.toUInt8 then afterLiteral quote rest
    else if b = quote then c :: rest
    else afterLiteral quote (c :: rest)
  | _ => []

def afterLine : List UInt8 → List UInt8
  | [] => []
  | b :: rest => if b = '\n'.toUInt8 then rest else afterLine rest

def afterBlock : List UInt8 → List UInt8
  | b :: c :: rest =>
    if b = '*'.toUInt8 ∧ c = '/'.toUInt8 then rest else afterBlock (c :: rest)
  | _ => []

def isQuoteByte (b : UInt8) : Bool := b = '"'.toUInt8 || b = '\''.toUInt8 || b = '`'.toUInt8

def opens : List UInt8 → Bool
  | [] => false
  | b :: rest => isQuoteByte b ||
      (b = '/'.toUInt8 && (rest.head? = some '/'.toUInt8 || rest.head? = some '*'.toUInt8))

/-- Lexing the bytes of `text` comes to stand, outside of literals and comments, before `rest`. -/
inductive Reaches (text : List UInt8) : List UInt8 → Prop
  | start : Reaches text text
  | code {b : UInt8} {rest : List UInt8} (here : Reaches text (b :: rest))
      (plain : opens (b :: rest) = false) : Reaches text rest
  | literal {quote : UInt8} {rest : List UInt8} (here : Reaches text (quote :: rest))
      (quotes : isQuoteByte quote) : Reaches text (afterLiteral quote rest)
  | line {rest : List UInt8} (here : Reaches text ('/'.toUInt8 :: '/'.toUInt8 :: rest)) :
      Reaches text (afterLine rest)
  | block {rest : List UInt8} (here : Reaches text ('/'.toUInt8 :: '*'.toUInt8 :: rest)) :
      Reaches text (afterBlock rest)

/-- At place `i` of the text there is the byte `b`, and it belongs to the code. -/
def CodeAt (text : List UInt8) (i : Nat) (b : UInt8) : Prop :=
  ∃ rest, text.drop i = b :: rest ∧ Reaches text (b :: rest) ∧ opens (b :: rest) = false

theorem isQuote_ofUInt8 (b : UInt8) : isQuote (Char.ofUInt8 b) = isQuoteByte b := by
  simp only [isQuote, isQuoteByte, ofUInt8_eq_iff (c := '"') (by decide),
    ofUInt8_eq_iff (c := '\'') (by decide), ofUInt8_eq_iff (c := '`') (by decide)]

/-- Where the bytes go on that lexing in one go has come to, for a lexer in this mode that has
`rest` before it. -/
def Mode.resume : Mode → List UInt8 → List UInt8
  | .code, rest => rest
  | .slash, rest => '/'.toUInt8 :: rest
  | .quoted q, rest => afterLiteral q.toUInt8 rest
  | .escaped q, rest => afterLiteral q.toUInt8 ('\\'.toUInt8 :: rest)
  | .lineComment, rest => afterLine rest
  | .blockComment, rest => afterBlock rest
  | .star, rest => afterBlock ('*'.toUInt8 :: rest)

theorem afterLiteral_cons {quote b : UInt8} (escape : b ≠ '\\'.toUInt8) (rest : List UInt8) :
    afterLiteral quote (b :: rest) = if b = quote then rest else afterLiteral quote rest := by
  cases rest with
  | nil => simp [afterLiteral]
  | cons c rest => simp [afterLiteral, escape]

theorem afterLiteral_escape (quote b : UInt8) (rest : List UInt8) :
    afterLiteral quote ('\\'.toUInt8 :: b :: rest) = afterLiteral quote rest := by
  simp [afterLiteral]

theorem afterBlock_cons {b : UInt8} (star : b ≠ '*'.toUInt8) (rest : List UInt8) :
    afterBlock (b :: rest) = afterBlock rest := by
  cases rest with
  | nil => rfl
  | cons c rest => simp [afterBlock, star]

theorem afterBlock_star {b : UInt8} (slash : b ≠ '/'.toUInt8) (rest : List UInt8) :
    afterBlock ('*'.toUInt8 :: b :: rest) = afterBlock (b :: rest) := by
  simp [afterBlock, slash]

variable {text : List UInt8}

theorem Reaches.resume_fromCode {b : UInt8} {rest : List UInt8}
    (here : Reaches text (b :: rest)) :
    Reaches text ((Mode.fromCode (.ofUInt8 b)).resume rest) := by
  rw [Mode.fromCode, isQuote_ofUInt8]
  by_cases quotes : isQuoteByte b
  · have same : b = (Char.ofUInt8 b).toUInt8 :=
      (ofUInt8_eq_iff (toNat_ofUInt8 b ▸ b.toNat_lt)).mp rfl
    simpa [quotes, Mode.resume, ← same] using Reaches.literal here quotes
  · by_cases slash : b = '/'.toUInt8
    · subst slash
      exact here
    · have other := ofUInt8_ne (c := '/') (by decide) slash
      have plain : opens (b :: rest) = false := by simp [opens, quotes, slash]
      simpa [quotes, other, Mode.resume] using Reaches.code here plain

theorem Reaches.resume_next {m : Mode} (proper : m.Proper) {b : UInt8} {rest : List UInt8}
    (here : Reaches text (m.resume (b :: rest))) :
    Reaches text ((m.next (.ofUInt8 b)).resume rest) := by
  have is (c : Char) (small : c.toNat < 128) : Char.ofUInt8 b = c ↔ b = c.toUInt8 :=
    ofUInt8_eq_iff (by omega)
  cases m with
  | code => exact here.resume_fromCode
  | slash =>
    simp only [Mode.next, is '/' (by decide), is '*' (by decide)]
    by_cases slash : b = '/'.toUInt8
    · rw [if_pos slash]
      rw [slash] at here
      exact .line here
    · rw [if_neg slash]
      by_cases star : b = '*'.toUInt8
      · rw [if_pos star]
        rw [star] at here
        exact .block here
      · rw [if_neg star]
        have noQuote : isQuoteByte '/'.toUInt8 = false := by decide
        have plain : opens ('/'.toUInt8 :: b :: rest) = false := by
          simp [opens, noQuote, slash, star]
        exact (Reaches.code here plain).resume_fromCode
  | quoted q =>
    simp only [Mode.next, is '\\' (by decide), is q (toNat_lt_of_isQuote proper)]
    by_cases escape : b = '\\'.toUInt8
    · rw [if_pos escape]
      rw [escape] at here
      exact here
    · rw [Mode.resume, afterLiteral_cons escape] at here
      rw [if_neg escape]
      by_cases closes : b = q.toUInt8
      · rw [if_pos closes] at here ⊢
        exact here
      · rw [if_neg closes] at here ⊢
        exact here
  | escaped q =>
    rw [Mode.resume, afterLiteral_escape] at here
    exact here
  | lineComment =>
    simp only [Mode.next, is '\n' (by decide)]
    rw [Mode.resume, afterLine] at here
    by_cases ends : b = '\n'.toUInt8
    · rw [if_pos ends] at here ⊢
      exact here
    · rw [if_neg ends] at here ⊢
      exact here
  | blockComment =>
    simp only [Mode.next, is '*' (by decide)]
    by_cases star : b = '*'.toUInt8
    · rw [if_pos star]
      rw [star] at here
      exact here
    · rw [Mode.resume, afterBlock_cons star] at here
      rw [if_neg star]
      exact here
  | star =>
    simp only [Mode.next, is '/' (by decide), is '*' (by decide)]
    by_cases slash : b = '/'.toUInt8
    · rw [if_pos slash]
      simpa [Mode.resume, afterBlock, slash] using here
    · rw [Mode.resume, afterBlock_star slash] at here
      rw [if_neg slash]
      by_cases star : b = '*'.toUInt8
      · rw [if_pos star]
        rw [star] at here
        exact here
      · rw [afterBlock_cons star] at here
        rw [if_neg star]
        exact here

theorem Reaches.resume_run {m : Mode} (proper : m.Proper) {bs rest : List UInt8}
    (here : Reaches text (m.resume (bs ++ rest))) :
    Reaches text ((m.runBytes bs).resume rest) := by
  induction bs generalizing m with
  | nil => exact here
  | cons b bs ih => exact ih (proper.next _) (here.resume_next proper)

theorem Mode.runBytes_cons (m : Mode) (b : UInt8) (bs : List UInt8) :
    m.runBytes (b :: bs) = (m.next (.ofUInt8 b)).runBytes bs := rfl

theorem exists_of_afterLiteral {quote c : UInt8} {rest after : List UInt8}
    (left : afterLiteral quote rest = c :: after) :
    ∃ body, rest = body ++ c :: after ∧ (Mode.quoted (.ofUInt8 quote)).runBytes body = .code := by
  fun_induction afterLiteral quote rest with
  | case1 b rest ih =>
    obtain ⟨body, rfl, inside⟩ := ih left
    exact ⟨'\\'.toUInt8 :: b :: body, rfl, inside⟩
  | case2 b rest notEscape =>
    refine ⟨[quote], by rw [left]; rfl, ?_⟩
    rw [Mode.runBytes_cons, Mode.next, if_neg (ofUInt8_ne (by decide) notEscape), if_pos rfl]
    rfl
  | case3 b c' rest notEscape notQuote ih =>
    obtain ⟨body, split, inside⟩ := ih left
    have other : Char.ofUInt8 b ≠ .ofUInt8 quote := fun same =>
      notQuote (UInt8.toNat_inj.mp (by rw [← toNat_ofUInt8, same, toNat_ofUInt8]))
    refine ⟨b :: body, by rw [split]; rfl, ?_⟩
    rw [Mode.runBytes_cons, Mode.next, if_neg (ofUInt8_ne (by decide) notEscape), if_neg other,
      inside]
  | case4 => cases left

theorem exists_of_afterLine {c : UInt8} {rest after : List UInt8}
    (left : afterLine rest = c :: after) :
    ∃ body, rest = body ++ c :: after ∧ Mode.lineComment.runBytes body = .code := by
  fun_induction afterLine rest with
  | case1 => cases left
  | case2 rest => exact ⟨['\n'.toUInt8], by rw [left]; rfl, rfl⟩
  | case3 b rest other ih =>
    obtain ⟨body, rfl, inside⟩ := ih left
    refine ⟨b :: body, rfl, ?_⟩
    rw [Mode.runBytes_cons, Mode.next, if_neg (ofUInt8_ne (by decide) other), inside]

theorem exists_of_afterBlock {c : UInt8} {rest after : List UInt8}
    (left : afterBlock rest = c :: after) :
    ∃ body, rest = body ++ c :: after ∧ Mode.blockComment.runBytes body = .code := by
  fun_induction afterBlock rest with
  | case1 b d rest ends =>
    obtain ⟨rfl, rfl⟩ := ends
    exact ⟨['*'.toUInt8, '/'.toUInt8], by rw [left]; rfl, rfl⟩
  | case2 b d rest unended ih =>
    obtain ⟨body, split, inside⟩ := ih left
    refine ⟨b :: body, by rw [split]; rfl, ?_⟩
    by_cases star : b = '*'.toUInt8
    · -- A star that no slash follows is read like any other character of the comment.
      cases body with
      | nil => cases inside
      | cons d' body =>
        obtain rfl : d = d' := (List.cons.inj split).1
        have notSlash := ofUInt8_ne (c := '/') (by decide) fun slash => unended ⟨star, slash⟩
        rw [star, Mode.runBytes_cons, Mode.runBytes_cons, ← inside, Mode.runBytes_cons]
        simp [Mode.next, notSlash, (ofUInt8_eq_iff (c := '*') (by decide)).mpr rfl]
    · rw [Mode.runBytes_cons, Mode.next, if_neg (ofUInt8_ne (by decide) star), inside]
  | case3 => cases left

structure Mode.Stands (m : Mode) (rest : List UInt8) : Prop where
  isCode : m.isCode
  apart : m = .slash → ∀ b, rest.head? = some b → b ≠ '/'.toUInt8 ∧ b ≠ '*'.toUInt8

theorem Mode.Stands.next {m : Mode} {b : UInt8} {rest : List UInt8}
    (stands : m.Stands (b :: rest)) : m.next (.ofUInt8 b) = fromCode (.ofUInt8 b) := by
  cases m with
  | code => rfl
  | slash =>
    obtain ⟨slash, star⟩ := stands.apart rfl b rfl
    rw [Mode.next, if_neg (ofUInt8_ne (by decide) slash), if_neg (ofUInt8_ne (by decide) star)]
  | quoted q | escaped q | lineComment | blockComment | star => cases stands.isCode

theorem Mode.stands_fromCode {b : UInt8} {rest : List UInt8} (plain : opens (b :: rest) = false) :
    (fromCode (.ofUInt8 b)).Stands rest := by
  simp only [opens, Bool.or_eq_false_iff, Bool.and_eq_false_imp, decide_eq_true_eq,
    decide_eq_false_iff_not] at plain
  rw [fromCode, isQuote_ofUInt8, plain.1]
  by_cases slash : b = '/'.toUInt8
  · have same := (ofUInt8_eq_iff (c := '/') (by decide)).mpr slash
    simp only [same]
    refine ⟨rfl, fun _ d first => ?_⟩
    obtain ⟨notSlash, notStar⟩ := plain.2 slash
    rw [first] at notSlash notStar
    exact ⟨fun same => notSlash (by rw [same]), fun same => notStar (by rw [same])⟩
  · simp only [ofUInt8_ne (c := '/') (by decide) slash]
    exact ⟨rfl, fun isSlash => by cases isSlash⟩

theorem exists_stands {done rest : List UInt8} (body : List UInt8)
    (split : text = done ++ (body ++ rest))
    (back : (Mode.code.runBytes done).runBytes body = .code) :
    ∃ done, text = done ++ rest ∧ (Mode.code.runBytes done).Stands rest := by
  refine ⟨done ++ body, by rw [split, List.append_assoc], ?_⟩
  rw [Mode.runBytes_append, back]
  exact ⟨rfl, fun isSlash => by cases isSlash⟩

theorem Reaches.exists_stands {rest : List UInt8} (here : Reaches text rest)
    (nonempty : rest ≠ []) :
    ∃ done, text = done ++ rest ∧ (Mode.code.runBytes done).Stands rest := by
  obtain ⟨c, after, left⟩ := List.exists_cons_of_ne_nil nonempty
  induction here generalizing c after with
  | start => exact ⟨[], rfl, rfl, fun isSlash => by cases isSlash⟩
  | @code b rest here plain ih =>
    obtain ⟨done, split, stands⟩ := ih (List.cons_ne_nil b rest) b rest rfl
    refine ⟨done ++ [b], by simp [split], ?_⟩
    have next : Mode.code.runBytes (done ++ [b]) = Mode.fromCode (.ofUInt8 b) := by
      rw [Mode.runBytes_append, ← stands.next]
      rfl
    rw [next]
    exact Mode.stands_fromCode plain
  | @literal quote rest here quotes ih =>
    obtain ⟨done, split, stands⟩ := ih (List.cons_ne_nil quote rest) quote rest rfl
    obtain ⟨body, within, inside⟩ := exists_of_afterLiteral left
    rw [left]
    refine Script.exists_stands (quote :: body) (by rw [split, within]; rfl) ?_
    rw [Mode.runBytes_cons, stands.next, Mode.fromCode, isQuote_ofUInt8, if_pos quotes, inside]
  | @line rest here ih =>
    obtain ⟨done, split, stands⟩ := ih (List.cons_ne_nil _ _) _ _ rfl
    obtain ⟨body, within, inside⟩ := exists_of_afterLine left
    rw [left]
    refine Script.exists_stands ('/'.toUInt8 :: '/'.toUInt8 :: body)
      (by rw [split, within]; rfl) ?_
    rw [Mode.runBytes_cons, stands.next]
    exact inside
  | @block rest here ih =>
    obtain ⟨done, split, stands⟩ := ih (List.cons_ne_nil _ _) _ _ rfl
    obtain ⟨body, within, inside⟩ := exists_of_afterBlock left
    rw [left]
    refine Script.exists_stands ('/'.toUInt8 :: '*'.toUInt8 :: body)
      (by rw [split, within]; rfl) ?_
    rw [Mode.runBytes_cons, stands.next]
    exact inside

def isBrace (c : Char) : Bool := c == '{' || c == '}'

theorem isBrace_apart {c : Char} (brace : isBrace c) : c.toNat < 128 ∧
    isQuoteByte c.toUInt8 = false ∧ c.toUInt8 ≠ '/'.toUInt8 ∧ c.toUInt8 ≠ '*'.toUInt8 := by
  simp only [isBrace, Bool.or_eq_true, beq_iff_eq] at brace
  rcases brace with rfl | rfl <;> decide

theorem opens_of_isBrace {c : Char} (brace : isBrace c) (rest : List UInt8) :
    opens (c.toUInt8 :: rest) = false ∧ opens ('/'.toUInt8 :: c.toUInt8 :: rest) = false := by
  obtain ⟨-, noQuote, noSlash, noStar⟩ := isBrace_apart brace
  have slash : isQuoteByte '/'.toUInt8 = false := by decide
  exact ⟨by simp [opens, noQuote, noSlash], by simp [opens, slash, noSlash, noStar]⟩

theorem codeAt_iff {cs : List Char} {i : Nat} {c : Char} (brace : isBrace c) :
    CodeAt (bytes cs) i c.toUInt8 ↔ ∃ front back, cs = front ++ c :: back ∧ byteSize front = i ∧
      (Mode.code.run front).isCode := by
  have proper : Mode.code.Proper := trivial
  have small := (isBrace_apart brace).1
  constructor
  · rintro ⟨rest, there, here, -⟩
    obtain ⟨done, split, stands⟩ := here.exists_stands (List.cons_ne_nil _ _)
    obtain ⟨front, back, rfl, rfl⟩ := exists_of_bytes_eq small split
    rw [Mode.runBytes_bytes proper] at stands
    refine ⟨front, back, rfl, ?_, stands.isCode⟩
    have whole := congrArg List.length split
    have behind := congrArg List.length there
    simp only [List.length_append, List.length_drop, List.length_cons, length_bytes] at whole behind
    omega
  · rintro ⟨front, back, rfl, rfl, code⟩
    have split : bytes (front ++ c :: back) = bytes front ++ c.toUInt8 :: bytes back := by
      rw [bytes_append, bytes_cons, encode_of_small small]
      rfl
    have first : Reaches (bytes (front ++ c :: back)) (bytes front ++ c.toUInt8 :: bytes back) :=
      split ▸ .start
    have resumed := Reaches.resume_run (m := .code) proper first
    rw [Mode.runBytes_bytes proper] at resumed
    obtain ⟨plain, apart⟩ := opens_of_isBrace brace (bytes back)
    refine ⟨bytes back, by rw [split, ← length_bytes, List.drop_left], ?_, plain⟩
    cases mode : Mode.code.run front with
    | code =>
      rw [mode] at resumed
      exact resumed
    | slash =>
      rw [mode] at resumed
      exact .code resumed apart
    | quoted q | escaped q | lineComment | blockComment | star =>
      rw [mode] at code
      cases code

end MockData.Script
