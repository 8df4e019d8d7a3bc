import MockData.Proofs.Phrases

/-!
What is read from the tokens of a phrase is the phrase, and what stands behind it is left as it is.
-/
namespace MockData.Script

open Text Reader

namespace Reader

variable {α : Type} {read : Reader α} {items : List α} {tokens : α → List Token}

theorem take_append (front ts : List Token) : take front (front ++ ts) = some ts := by
  induction front with
  | nil => rfl
  | cons t front ih => rw [List.cons_append, take, if_pos rfl, ih]

theorem take_eq_none {t u : Token} (other : t ≠ u) (front ts : List Token) :
    take (t :: front) (u :: ts) = none := if_neg other

theorem sequence_append (ending : List Token)
    (each : ∀ a ∈ items, ∀ ts, read (tokens a ++ ts) = some (a, ts))
    (starts : ∀ a ∈ items, tokens a ≠ [] ∧ ∀ ts, take ending (tokens a ++ ts) = none)
    (rest : List Token) :
    sequence read ending (items.flatMap tokens ++ (ending ++ rest)) = some (items, rest) := by
  induction items with
  | nil => rw [List.flatMap_nil, List.nil_append, sequence, take_append]
  | cons a items ih =>
    obtain ⟨nonempty, notEnding⟩ := starts a (by simp)
    have later := ih (fun b member => each b (by simp [member]))
      fun b member => starts b (by simp [member])
    have shorter := List.length_pos_iff.mpr nonempty
    rw [List.flatMap_cons, List.append_assoc, sequence, notEnding _]
    simp [each a, shorter, later]

theorem separated_append {ending : Token} (other : ending ≠ .mark ',')
    (each : ∀ a ∈ items, ∀ t ∈ [.mark ',', ending], ∀ ts,
      read (tokens a ++ t :: ts) = some (a, t :: ts))
    (starts : ∀ a ∈ items, ∀ ts, take [ending] (tokens a ++ ts) = none) (rest : List Token) :
    separated read ending (commaTokens (items.map tokens) ++ ending :: rest) =
      some (items, rest) := by
  induction items with
  | nil => simp [commaTokens, separated, take]
  | cons a items ih =>
    have later := ih (fun b member => each b (by simp [member]))
      fun b member => starts b (by simp [member])
    cases items with
    | nil =>
      have last := each a (by simp) ending (by simp) rest
      simp only [List.map_cons, List.map_nil, commaTokens]
      rw [separated, starts a (by simp)]
      simp [last, take, other.symm]
    | cons b items =>
      have first := each a (by simp) (.mark ',') (by simp)
      simp only [List.map_cons, commaTokens] at later ⊢
      rw [List.append_assoc, List.cons_append, separated, starts a (by simp)]
      simp [first, take, later]
      omega

end Reader

namespace Literal

theorem intLiteral?_of_eq {m : Int} {n : Int64} (value : m = n.toInt) :
    intLiteral? m = some (.int n) := by
  rw [value, intLiteral?, Int64.ofInt_toInt, if_pos rfl]

theorem read_tokens (l : Literal) (ts : List Token) : read (l.tokens ++ ts) = some (l, ts) := by
  have number (n : Nat) : numberOfDigits? (Nat.toDigits 10 n) = some n := by
    rw [numberOfDigits?, decimalValue_toDigits, if_pos rfl]
  cases l with
  | text s =>
    have value : stringValue? (quote s).toList = some (units s.toList) := by
      have text : (quote s).toList = '"' :: (quoteBody s.toList ++ ['"']) := by simp [quote]
      rw [text, stringValue?, literalUnits_quoteBody]
    have text : textOfUnits? (units s.toList) = some s := by
      rw [textOfUnits?, joinUnits_of_decodes (decodes_units s.toList), if_pos rfl,
        String.ofList_toList]
    simp [tokens, read, value, text]
  | null => rfl
  | int n =>
    rw [tokens]
    split
    · rename_i negative
      have value : -(n.toInt.natAbs : Int) = n.toInt := by omega
      simp only [List.cons_append, List.nil_append, read, number, Option.bind_eq_bind,
        Option.bind_some, intLiteral?_of_eq value, Option.pure_def]
    · rename_i nonneg
      have value : (n.toInt.toNat : Int) = n.toInt := by omega
      simp only [List.cons_append, List.nil_append, read, number, Option.bind_eq_bind,
        Option.bind_some, intLiteral?_of_eq value, Option.pure_def]

theorem identifier_tokens (l : Literal) (ts : List Token) : identifier (l.tokens ++ ts) = none := by
  cases l with
  | text | null => rfl
  | int n =>
    rw [tokens]
    split <;> rfl

end Literal

def Token.isEnd (t : Token) : Bool :=
  t ∉ [.sign ".", .mark '[', .mark '(', .mark ':']

theorem Token.ne_of_isEnd {t : Token} (isEnd : t.isEnd) :
    .sign "." ≠ t ∧ .mark '[' ≠ t ∧ .mark '(' ≠ t := by
  simp only [Token.isEnd, List.mem_cons, List.not_mem_nil, or_false, decide_eq_true_eq,
    not_or] at isEnd
  exact ⟨Ne.symm isEnd.1, Ne.symm isEnd.2.1, Ne.symm isEnd.2.2.1⟩

namespace Operand

theorem read_tokens (o : Operand) {t : Token} (isEnd : t.isEnd) (ts : List Token) :
    read (o.tokens ++ t :: ts) = some (o, t :: ts) := by
  obtain ⟨point, bracket, -⟩ := Token.ne_of_isEnd isEnd
  cases o with
  | literal l =>
    have whole := l.read_tokens (t :: ts)
    simp [read, readField, readItem, tokens, l.identifier_tokens, whole]
  | name x => simp [read, readField, readItem, tokens, identifier, take, point, bracket]
  | field x f => simp [read, readField, tokens, identifier, take]
  | item list index => simp [read, readField, readItem, tokens, identifier, take]

/-- Tokens that no operand starts with. -/
def foreign : List Token :=
  [.mark '{', .mark '}', .keyword "const", .keyword "return", .keyword "if"]

theorem take_tokens (o : Operand) {t : Token} (isForeign : t ∈ foreign) (front ts : List Token) :
    take (t :: front) (o.tokens ++ ts) = none := by
  obtain ⟨first, rest, split, native⟩ : ∃ first rest, o.tokens = first :: rest ∧
      first ∉ foreign := by
    cases o with
    | name | field | item => exact ⟨_, _, rfl, by simp [foreign]⟩
    | literal l =>
      cases l with
      | text | null => exact ⟨_, _, rfl, by simp [foreign]⟩
      | int n =>
        rw [tokens, Literal.tokens]
        split <;> exact ⟨_, _, rfl, by simp [foreign]⟩
  rw [split]
  refine take_eq_none ?_ front _
  rintro rfl
  exact native isForeign

end Operand

namespace Member

theorem read_tokens (m : Member) {t : Token} (isEnd : t.isEnd) (ts : List Token) :
    read (m.tokens ++ t :: ts) = some (m, t :: ts) := by
  cases m with
  | spread o => simp [read, tokens, take, o.read_tokens isEnd]
  | same x =>
    have colon : .mark ':' ≠ t := by
      rintro rfl
      cases isEnd
    simp [read, tokens, take, identifier, colon]
  | entry key o => simp [read, tokens, take, identifier, o.read_tokens isEnd]

theorem take_tokens (m : Member) (ts : List Token) : take [.mark '}'] (m.tokens ++ ts) = none := by
  cases m with
  | spread | same | entry => rfl

theorem separated_tokens (members : List Member) (ts : List Token) :
    separated read (.mark '}') (commaTokens (members.map tokens) ++ .mark '}' :: ts) =
      some (members, ts) := by
  refine separated_append (by decide) (fun m _ t ends ts => m.read_tokens ?_ ts)
    (fun m _ ts => m.take_tokens ts) ts
  simp only [List.mem_cons, List.not_mem_nil, or_false] at ends
  rcases ends with rfl | rfl <;> rfl

end Member

namespace Expr

section Searching

variable (how : Search) (list item field : String) (value : Operand) (ts : List Token)

theorem readSearch_tokens :
    readSearch how ((search how list item field value).tokens ++ ts) =
      some (.search how list item field value, ts) := by
  have wanted := value.read_tokens (t := .mark ')') rfl ts
  simp [readSearch, tokens, identifier, take, wanted]

theorem readSearch_of_ne (other : Search) (ne : other.render ≠ how.render) :
    readSearch other ((search how list item field value).tokens ++ ts) = none := by
  simp [readSearch, tokens, identifier, take, ne]

end Searching

theorem read_tokens (e : Expr) {t : Token} (isEnd : t.isEnd) (ts : List Token) :
    read (e.tokens ++ t :: ts) = some (e, t :: ts) := by
  cases e with
  | operand o =>
    have whole := o.read_tokens isEnd ts
    obtain ⟨point, -, paren⟩ := Token.ne_of_isEnd isEnd
    rw [tokens, read, whole]
    cases o with
    | literal l =>
      simp [readSearch, readCall, readTakeOut, Operand.tokens, l.identifier_tokens]
    | name x =>
      simp [readSearch, readCall, readTakeOut, Operand.tokens, identifier, take, point, paren]
    | field x f =>
      simp [readSearch, readCall, readTakeOut, Operand.tokens, identifier, take, paren]
    | item list index =>
      simp [readSearch, readCall, readTakeOut, Operand.tokens, identifier, take]
  | search how list item field value =>
    have self := readSearch_tokens how list item field value (t :: ts)
    have other := readSearch_of_ne how list item field value (t :: ts)
    cases how with
    | find => simp [read, self]
    | filter => simp [read, self, other .find (by decide)]
    | findIndex => simp [read, self, other .find (by decide), other .filter (by decide)]
  | call | takeOut => rfl

theorem take_tokens (e : Expr) {t : Token} (isForeign : t ∈ Operand.foreign)
    (front ts : List Token) : take (t :: front) (e.tokens ++ ts) = none := by
  cases e with
  | operand o => exact o.take_tokens isForeign front ts
  | search | call | takeOut =>
    refine take_eq_none ?_ front _
    rintro rfl
    simp [Operand.foreign] at isForeign

end Expr

namespace Step

theorem read_operand (o : Operand) {t : Token} (isEnd : t.isEnd) (ts : List Token) :
    read (o.tokens ++ t :: ts) = (readMerge (o.tokens ++ t :: ts) <|>
      readSet (o.tokens ++ t :: ts) <|> readIncrease (o.tokens ++ t :: ts)) := by
  obtain ⟨point, -, paren⟩ := Token.ne_of_isEnd isEnd
  have noBinding (front : List Token) :=
    o.take_tokens (t := .keyword "const") (by decide) front (t :: ts)
  have noAnswer (front : List Token) :=
    o.take_tokens (t := .keyword "return") (by decide) front (t :: ts)
  have noPush : readPush (o.tokens ++ t :: ts) = none := by
    cases o with
    | literal l => simp [readPush, Operand.tokens, l.identifier_tokens]
    | name x => simp [readPush, Operand.tokens, identifier, take, point]
    | field x f => simp [readPush, Operand.tokens, identifier, take, paren]
    | item list index => simp [readPush, Operand.tokens, identifier, take]
  simp [read, readBind, readAnswerObject, readAnswer, noPush, noBinding, noAnswer]

theorem read_tokens (s : Step) (ts : List Token) : read (s.tokens ++ ts) = some (s, ts) := by
  cases s with
  | bind x e =>
    have value := e.read_tokens (t := .mark ';') rfl ts
    simp [read, readBind, tokens, identifier, take, value]
  | answer e =>
    have value := e.read_tokens (t := .mark ';') rfl ts
    have noObject := e.take_tokens (t := .mark '{') (by decide) [] (.mark ';' :: ts)
    simp [read, readBind, readAnswerObject, readAnswer, tokens, take, value, noObject]
  | answerObject members =>
    have inner := Member.separated_tokens members (.mark ';' :: ts)
    simp [read, readBind, readAnswerObject, tokens, take, inner]
  | push list x =>
    simp [read, readBind, readAnswerObject, readAnswer, readPush, tokens, identifier, take]
  | set place o =>
    have first := place.read_tokens (t := .sign "=") rfl (o.tokens ++ .mark ';' :: ts)
    have value := o.read_tokens (t := .mark ';') rfl ts
    have noObject := o.take_tokens (t := .mark '{') (by decide) [] (.mark ';' :: ts)
    have change := read_operand place (t := .sign "=") rfl (o.tokens ++ .mark ';' :: ts)
    simpa [tokens, readMerge, readSet, first, take, value, noObject] using change
  | merge place members =>
    let behind := .mark '{' :: (commaTokens (members.map Member.tokens) ++
      .mark '}' :: .mark ';' :: ts)
    have first := place.read_tokens (t := .sign "=") rfl behind
    have inner := Member.separated_tokens members (.mark ';' :: ts)
    have change := read_operand place (t := .sign "=") rfl behind
    simpa [tokens, behind, readMerge, first, take, inner] using change
  | increase place x =>
    have first := place.read_tokens (t := .sign "+=") rfl (.name x :: .mark ';' :: ts)
    have change := read_operand place (t := .sign "+=") rfl (.name x :: .mark ';' :: ts)
    simpa [tokens, readMerge, readSet, readIncrease, first, take, identifier] using change

theorem take_tokens (s : Step) {t : Token} (other : t = .mark '}' ∨ t = .keyword "if")
    (front ts : List Token) : take (t :: front) (s.tokens ++ ts) = none := by
  have isForeign : t ∈ Operand.foreign := by rcases other with rfl | rfl <;> decide
  cases s with
  | bind | push | answer | answerObject =>
    refine take_eq_none ?_ front _
    rcases other with rfl | rfl <;> simp
  | set place | merge place | increase place =>
    rw [tokens, List.append_assoc]
    exact place.take_tokens isForeign front _

theorem tokens_ne_nil (s : Step) : s.tokens ≠ [] := by
  cases s <;> simp [tokens]

end Step

theorem Condition.read_tokens (c : Condition) (ts : List Token) :
    read (c.tokens ++ .mark ')' :: ts) = some (c, .mark ')' :: ts) := by
  cases c with
  | present x => simp [read, tokens, identifier, take]
  | found x => simp [read, tokens, identifier, take]

namespace Statement

theorem read_tokens (s : Statement) (ts : List Token) : read (s.tokens ++ ts) = some (s, ts) := by
  cases s with
  | step s =>
    have noGuard := s.take_tokens (.inr rfl) [.mark '('] ts
    simp [read, readGuarded, tokens, noGuard, s.read_tokens]
  | guarded c steps =>
    have first := c.read_tokens (.mark '{' :: (steps.flatMap Step.tokens ++ .mark '}' :: ts))
    have inner := sequence_append [.mark '}'] (fun s (_ : s ∈ steps) => s.read_tokens)
      (fun s _ => ⟨s.tokens_ne_nil, s.take_tokens (.inl rfl) []⟩) ts
    simp only [List.singleton_append] at inner
    simp [read, readGuarded, tokens, take, first, inner]

theorem take_tokens (s : Statement) (ts : List Token) :
    take [.mark '}'] (s.tokens ++ ts) = none := by
  cases s with
  | step s => exact s.take_tokens (.inl rfl) [] ts
  | guarded => rfl

theorem tokens_ne_nil (s : Statement) : s.tokens ≠ [] := by
  cases s with
  | step s => exact s.tokens_ne_nil
  | guarded => simp [tokens]

end Statement

theorem Function.read_tokens (f : Function) (ts : List Token) :
    read (f.tokens ++ ts) = some (f, ts) := by
  have inner := sequence_append [.mark '}'] (fun s (_ : s ∈ f.body) => s.read_tokens)
    (fun s _ => ⟨s.tokens_ne_nil, s.take_tokens⟩) (.mark ';' :: ts)
  let behind := .sign "=>" :: .mark '{' ::
    (f.body.flatMap Statement.tokens ++ .mark '}' :: .mark ';' :: ts)
  have params : separated identifier (.mark ')')
      (commaTokens (f.params.map fun x => [.name x]) ++ .mark ')' :: behind) =
        some (f.params, behind) :=
    separated_append (by decide) (fun _ _ _ _ _ => rfl) (fun _ _ _ => rfl) behind
  simp only [List.singleton_append] at inner
  simp [read, tokens, identifier, take, params, behind, inner]

end MockData.Script
