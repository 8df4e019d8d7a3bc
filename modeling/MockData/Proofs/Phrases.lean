import MockData.Proofs.Grammar

/-!
The tokens of what is written. A function whose names are free is read as its tokens, phrase by
phrase, and from its tokens the function itself.
-/
namespace MockData.Script

open Text Reader

def isFree (x : String) : Bool := isIdentifier x && !reserved.contains x

theorem lexes_name {x : String} (free : isFree x) : Lexes x.toList [.name x] := by
  simp only [isFree, Bool.and_eq_true, Bool.not_eq_true', List.contains_eq_mem,
    decide_eq_false_iff_not] at free
  exact .name free.1 free.2

theorem isSignChar_of_isFree {x : String} (free : isFree x) :
    ∀ c ∈ x.toList, isSignChar c = false := by
  simp only [isFree, Bool.and_eq_true] at free
  exact fun c member =>
    isSignChar_of_class (by decide) ((isAsciiWord_of_isIdentifier free.1).2 c member)

namespace Literal

def tokens : Literal → List Token
  | .text s => [.string (quote s).toList]
  | .int n =>
    if n.toInt < 0 then [.mark '-', .digits (Nat.toDigits 10 n.toInt.natAbs)]
    else [.digits (Nat.toDigits 10 n.toInt.toNat)]
  | .null => [.keyword "null"]

theorem lexes (l : Literal) : Lexes l.render.toList l.tokens := by
  cases l with
  | text s => exact .quote s
  | null => rfl
  | int n =>
    rw [render, tokens]
    split
    · rename_i negative
      have minus : Lexes ['-'] [.mark '-'] := rfl
      rw [toList_toString_of_neg negative]
      exact minus.append (.digits _) (.of_last rfl)
    · rename_i nonneg
      rw [toList_toString_of_nonneg (Int.not_lt.mp nonneg)]
      exact .digits _

end Literal

namespace Operand

def tokens : Operand → List Token
  | .literal l => l.tokens
  | .name x => [.name x]
  | .field x f => [.name x, .sign ".", .name f]
  | .item list index => [.name list, .mark '[', .name index, .mark ']']

end Operand

theorem lexes_field {x f : String} (ofX : isFree x) (ofF : isFree f) :
    Lexes (x ++ "." ++ f).toList [.name x, .sign ".", .name f] := by
  have point : Lexes ".".toList [.sign "."] := rfl
  have joined {c : Char} (sign : isSignChar c = false) :
      joins c '.' = false ∧ joins '.' c = false := by
    have noName : isNameChar '.' = false := rfl
    simp [joins, sign, noName]
  refine lexes_append (lexes_append (lexes_name ofX) point ?_) (lexes_name ofF) ?_
  · intro c last d first
    obtain rfl : '.' = d := by simpa using first
    exact (joined (isSignChar_of_isFree ofX c (List.mem_of_getLast? last))).1
  · intro c last d first
    obtain rfl : '.' = c := by simpa using last
    exact (joined (isSignChar_of_isFree ofF d (List.mem_of_head? first))).2

theorem Operand.lexes {o : Operand} (names : ∀ x ∈ o.names, isFree x) :
    Lexes o.render.toList o.tokens := by
  cases o with
  | literal l => exact l.lexes
  | name x => exact lexes_name (names x (by simp [Operand.names]))
  | field x f =>
    exact lexes_field (names x (by simp [Operand.names])) (names f (by simp [Operand.names]))
  | item list index =>
    have ofList := lexes_name (names list (by simp [Operand.names]))
    have ofIndex := lexes_name (names index (by simp [Operand.names]))
    have opening : Lexes "[".toList [.mark '['] := rfl
    have closing : Lexes "]".toList [.mark ']'] := rfl
    exact lexes_append (lexes_append (lexes_append ofList opening (.of_head rfl)) ofIndex
      (.behind rfl)) closing (.of_head rfl)

theorem Operand.head_render {o : Operand} (names : ∀ x ∈ o.names, isFree x) :
    ∀ c ∈ o.render.toList.head?, isSignChar c = false := by
  have ofName {x : String} (free : isFree x) (behind : List Char) :
      ∀ c ∈ (x.toList ++ behind).head?, isSignChar c = false := by
    intro c first
    have word := isSignChar_of_isFree free
    simp only [isFree, Bool.and_eq_true] at free
    obtain ⟨d, ds, letters, -⟩ := exists_letter_of_isIdentifier free.1
    rw [letters] at first word
    obtain rfl : d = c := by simpa using first
    exact word d (by simp)
  cases o with
  | literal l =>
    cases l with
    | text s => simp [render, Literal.render, quote, isSignChar, signChars]
    | null => simp [render, Literal.render, isSignChar, signChars]
    | int n =>
      obtain ⟨c, cs, text, signed⟩ := exists_cons_toString n.toInt
      intro d first
      rw [render, Literal.render, text] at first
      exact isSignChar_of_class (by decide) (signed d (List.mem_of_head? first))
  | name x => simpa [render] using ofName (names x (by simp [Operand.names])) []
  | field x f => simpa [render] using ofName (names x (by simp [Operand.names])) ('.' :: f.toList)
  | item list index =>
    simpa [render] using ofName (names list (by simp [Operand.names]))
      ('[' :: (index.toList ++ [']']))

namespace Member

def tokens : Member → List Token
  | .spread o => .sign "..." :: o.tokens
  | .same x => [.name x]
  | .entry key o => .name key :: .mark ':' :: o.tokens

theorem lexes {m : Member} (names : ∀ x ∈ m.names, isFree x) :
    Lexes m.render.toList m.tokens := by
  cases m with
  | spread o =>
    have dots : Lexes "...".toList [.sign "..."] := rfl
    refine lexes_append dots (Operand.lexes names) fun c last d first => ?_
    obtain rfl : '.' = c := by simpa using last
    have noName : isNameChar '.' = false := rfl
    simp [joins, noName, Operand.head_render names d first]
  | same x => exact lexes_name (names x (by simp [Member.names]))
  | entry key o =>
    have ofKey := lexes_name (names key (by simp [Member.names]))
    have colon : Lexes ": ".toList [.mark ':'] := rfl
    have value : Lexes o.render.toList o.tokens :=
      Operand.lexes fun x member => names x (by simp [Member.names, member])
    exact lexes_append (lexes_append ofKey colon (.of_head rfl)) value (.behind rfl)

end Member

namespace Expr

def tokens : Expr → List Token
  | .operand o => o.tokens
  | .search how list item field value =>
    [.name list, .sign ".", .name how.render, .mark '(', .name item, .sign "=>", .name item,
      .sign ".", .name field, .sign "==="] ++ value.tokens ++ [.mark ')']
  | .call f x => [.name f, .mark '(', .name x, .mark ')']
  | .takeOut list index =>
    [.name list, .sign ".", .name "splice", .mark '(', .name index, .mark ',', .digits ['1'],
      .mark ')', .mark '[', .digits ['0'], .mark ']']

theorem lexes {e : Expr} (names : ∀ x ∈ e.names, isFree x) : Lexes e.render.toList e.tokens := by
  have opening : Lexes "(".toList [.mark '('] := rfl
  have closing : Lexes ")".toList [.mark ')'] := rfl
  cases e with
  | operand o => exact Operand.lexes names
  | search how list item field value =>
    have ofHow : isFree how.render := by cases how <;> rfl
    have access := lexes_field (names list (by simp [Expr.names])) ofHow
    have ofItem := lexes_name (names item (by simp [Expr.names]))
    have arrow : Lexes " => ".toList [.sign "=>"] := rfl
    have property := lexes_field (names item (by simp [Expr.names]))
      (names field (by simp [Expr.names]))
    have equals : Lexes " === ".toList [.sign "==="] := rfl
    have ofValue : Lexes value.render.toList value.tokens :=
      Operand.lexes fun x member => names x (by simp [Expr.names, member])
    have whole := lexes_append (lexes_append (lexes_append (lexes_append (lexes_append
      (lexes_append (lexes_append access opening (.of_head rfl)) ofItem (.behind rfl)) arrow
        (.of_head rfl)) property (.behind rfl)) equals (.of_head rfl)) ofValue (.behind rfl))
          closing (.of_head rfl)
    simpa [render, tokens, String.append_assoc] using whole
  | call f x =>
    have ofF := lexes_name (names f (by simp [Expr.names]))
    have ofX := lexes_name (names x (by simp [Expr.names]))
    exact lexes_append (lexes_append (lexes_append ofF opening (.of_head rfl)) ofX (.behind rfl))
      closing (.of_head rfl)
  | takeOut list index =>
    have splice : isFree "splice" := rfl
    have access := lexes_field (names list (by simp [Expr.names])) splice
    have ofIndex := lexes_name (names index (by simp [Expr.names]))
    have behind : Lexes ", 1)[0]".toList
      [.mark ',', .digits ['1'], .mark ')', .mark '[', .digits ['0'], .mark ']'] := rfl
    have whole := lexes_append (lexes_append (lexes_append access opening (.of_head rfl)) ofIndex
      (.behind rfl)) behind (.of_head rfl)
    have text : (render (.takeOut list index)).toList =
        (list ++ "." ++ "splice" ++ "(" ++ index ++ ", 1)[0]").toList := by
      simp [render]
    rw [text]
    exact whole

end Expr

def commaTokens : List (List Token) → List Token
  | [] => []
  | [ts] => ts
  | ts :: us :: rest => ts ++ .mark ',' :: commaTokens (us :: rest)

theorem lexes_intercalate {α : Type} {items : List α} {text : α → String}
    {tokens : α → List Token} (each : ∀ a ∈ items, Lexes (text a).toList (tokens a)) :
    Lexes (", ".intercalate (items.map text)).toList (commaTokens (items.map tokens)) := by
  have comma : Lexes ", ".toList [.mark ','] := rfl
  rw [String.toList_intercalate]
  induction items with
  | nil => rfl
  | cons a later ih =>
    have first := each a (by simp)
    cases later with
    | nil => simpa [commaTokens] using first
    | cons b later =>
      have rest := ih fun c member => each c (by simp [member])
      simp only [List.map_cons, List.intercalate_cons_cons, commaTokens] at rest ⊢
      simpa using first.append (comma.append rest (.of_last rfl)) (.of_head rfl)

namespace Step

def tokens : Step → List Token
  | .bind x e => .keyword "const" :: .name x :: .sign "=" :: (e.tokens ++ [.mark ';'])
  | .set place o => place.tokens ++ .sign "=" :: (o.tokens ++ [.mark ';'])
  | .merge place members =>
    place.tokens ++ .sign "=" :: .mark '{' ::
      (commaTokens (members.map Member.tokens) ++ [.mark '}', .mark ';'])
  | .increase place x => place.tokens ++ [.sign "+=", .name x, .mark ';']
  | .push list x => [.name list, .sign ".", .name "push", .mark '(', .name x, .mark ')', .mark ';']
  | .answer e => .keyword "return" :: (e.tokens ++ [.mark ';'])
  | .answerObject members =>
    .keyword "return" :: .mark '{' ::
      (commaTokens (members.map Member.tokens) ++ [.mark '}', .mark ';'])

end Step

/-- A text that is read as these tokens, and that nothing behind it goes on with. -/
structure Closed (cs : List Char) (ts : List Token) : Prop where
  lexes : Lexes cs ts
  apart : ∀ ds, Apart cs ds

namespace Closed

variable {a b : List Char} {ts us : List Token}

theorem nil : Closed [] [] := ⟨rfl, fun ds c last => by cases last⟩

theorem append (ha : Closed a ts) (hb : Closed b us) : Closed (a ++ b) (ts ++ us) := by
  refine ⟨ha.lexes.append hb.lexes (ha.apart b), fun ds c last => ?_⟩
  rw [List.getLast?_append] at last
  cases lastB : b.getLast? with
  | none => exact ha.apart ds c (by simpa [lastB] using last)
  | some d => exact hb.apart ds c (by simpa [lastB] using last)

theorem of_lineFeed (lexes : Lexes a ts) : Closed (a ++ ['\n']) ts := by
  have lineFeed : Lexes ['\n'] [] := rfl
  refine ⟨?_, fun ds => .of_last ?_⟩
  · rw [← List.append_nil ts]
    exact lexes.append lineFeed (.of_head rfl)
  · rw [List.getLast?_append]
    rfl

theorem flatMap {α : Type} {items : List α} {text : α → List Char} {tokens : α → List Token}
    (each : ∀ i ∈ items, Closed (text i) (tokens i)) :
    Closed (items.flatMap text) (items.flatMap tokens) := by
  induction items with
  | nil => exact nil
  | cons i items ih =>
    rw [List.flatMap_cons, List.flatMap_cons]
    exact (each i (by simp)).append (ih fun j member => each j (by simp [member]))

end Closed

def LexesLines (ls : List String) (ts : List Token) : Prop := Closed (lines ls).toList ts

namespace LexesLines

variable {a b : List String} {ts us : List Token}

theorem append (ha : LexesLines a ts) (hb : LexesLines b us) : LexesLines (a ++ b) (ts ++ us) := by
  rw [LexesLines, toList_lines_append]
  exact Closed.append ha hb

theorem line {s : String} (lexes : Lexes s.toList ts) : LexesLines [s] ts := by
  have text : (lines [s]).toList = s.toList ++ ['\n'] := by simp [lines]
  rw [LexesLines, text]
  exact .of_lineFeed lexes

theorem flatMap {α : Type} {items : List α} {render : α → List String} {tokens : α → List Token}
    (each : ∀ i ∈ items, LexesLines (render i) (tokens i)) :
    LexesLines (items.flatMap render) (items.flatMap tokens) := by
  rw [LexesLines, toList_lines_flatMap]
  exact .flatMap each

theorem commas {α : Type} {items : List α} {text : α → String} {tokens : α → List Token}
    (each : ∀ a ∈ items, Lexes (text a).toList (tokens a)) :
    LexesLines (commas (items.map text)) (commaTokens (items.map tokens)) := by
  have comma : Lexes ",".toList [.mark ','] := rfl
  induction items with
  | nil => exact Closed.nil
  | cons a later ih =>
    have first := each a (by simp)
    have rest := ih fun b member => each b (by simp [member])
    cases later with
    | nil => exact line first
    | cons b later =>
      have both := (line (lexes_append first comma (.of_head rfl))).append rest
      simpa [Script.commas, commaTokens] using both

end LexesLines

section Steps

variable {margin : String} (blank : Lexes margin.toList [])
  (loose : margin.toList.getLast?.any isLoose)
include blank loose

theorem Step.lexes {s : Step} (names : ∀ x ∈ s.names, isFree x) :
    LexesLines (s.render margin) s.tokens := by
  have equals : Lexes " = ".toList [.sign "="] := rfl
  have ending : Lexes ";".toList [.mark ';'] := rfl
  have back : Lexes "return ".toList [.keyword "return"] := rfl
  cases s with
  | bind x e =>
    have const : Lexes "const ".toList [.keyword "const"] := rfl
    have ofX := lexes_name (names x (by simp [Step.names]))
    have ofE : Lexes e.render.toList e.tokens :=
      Expr.lexes fun y member => names y (by simp [Step.names, member])
    have whole := lexes_append (lexes_append (lexes_append (lexes_append (lexes_append blank const
      (.of_last loose)) ofX (.behind rfl)) equals (.of_head rfl)) ofE (.behind rfl)) ending
        (.of_head rfl)
    exact .line (by simpa [tokens] using whole)
  | set place o =>
    have ofPlace : Lexes place.render.toList place.tokens :=
      Operand.lexes fun y member => names y (by simp [Step.names, member])
    have ofO : Lexes o.render.toList o.tokens :=
      Operand.lexes fun y member => names y (by simp [Step.names, member])
    have whole := lexes_append (lexes_append (lexes_append (lexes_append blank ofPlace
      (.of_last loose)) equals (.of_head rfl)) ofO (.behind rfl)) ending (.of_head rfl)
    exact .line (by simpa [tokens] using whole)
  | merge place members =>
    have ofPlace : Lexes place.render.toList place.tokens :=
      Operand.lexes fun y member => names y (by simp [Step.names, member])
    have ofMembers := lexes_intercalate fun m (isMember : m ∈ members) =>
      Member.lexes fun y member => names y
        (List.mem_append_right _ (List.mem_flatMap.mpr ⟨m, isMember, member⟩))
    have opening : Lexes " = \x7b ".toList [.sign "=", .mark '{'] := rfl
    have closing : Lexes " \x7d;".toList [.mark '}', .mark ';'] := rfl
    have whole := lexes_append (lexes_append (lexes_append (lexes_append blank ofPlace
      (.of_last loose)) opening (.of_head rfl)) ofMembers (.behind rfl)) closing (.of_head rfl)
    exact .line (by simpa [tokens] using whole)
  | increase place x =>
    have ofPlace : Lexes place.render.toList place.tokens :=
      Operand.lexes fun y member => names y (by simp [Step.names, member])
    have adds : Lexes " += ".toList [.sign "+="] := rfl
    have ofX := lexes_name (names x (by simp [Step.names]))
    have whole := lexes_append (lexes_append (lexes_append (lexes_append blank ofPlace
      (.of_last loose)) adds (.of_head rfl)) ofX (.behind rfl)) ending (.of_head rfl)
    exact .line (by simpa [tokens] using whole)
  | push list x =>
    have free : isFree "push" := rfl
    have access := lexes_field (names list (by simp [Step.names])) free
    have opening : Lexes "(".toList [.mark '('] := rfl
    have ofX := lexes_name (names x (by simp [Step.names]))
    have closing : Lexes ");".toList [.mark ')', .mark ';'] := rfl
    have whole := lexes_append (lexes_append (lexes_append (lexes_append blank access
      (.of_last loose)) opening (.of_head rfl)) ofX (.behind rfl)) closing (.of_head rfl)
    refine .line ?_
    simp only [String.toList_append] at whole
    simpa [tokens] using whole
  | answer e =>
    have ofE : Lexes e.render.toList e.tokens := Expr.lexes names
    have whole := lexes_append (lexes_append (lexes_append blank back (.of_last loose)) ofE
      (.behind rfl)) ending (.of_head rfl)
    exact .line (by simpa [tokens] using whole)
  | answerObject members =>
    have opening : Lexes "return \x7b".toList [.keyword "return", .mark '{'] := rfl
    have closing : Lexes "\x7d;".toList [.mark '}', .mark ';'] := rfl
    have indent : Lexes "  ".toList [] := rfl
    have first := LexesLines.line (lexes_append blank opening (.of_last loose))
    have last := LexesLines.line (lexes_append blank closing (.of_last loose))
    have inner := LexesLines.commas fun m (isMember : m ∈ members) =>
      lexes_append (lexes_append blank indent (.of_head rfl)) (Member.lexes fun y member =>
        names y (List.mem_flatMap.mpr ⟨m, isMember, member⟩)) (.behind rfl)
    simpa [Step.render, tokens] using (first.append inner).append last

end Steps

namespace Condition

def tokens : Condition → List Token
  | .present x => [.name x]
  | .found x => [.name x, .sign "!==", .mark '-', .digits ['1']]

theorem lexes {c : Condition} (names : ∀ x ∈ c.names, isFree x) :
    Lexes c.render.toList c.tokens := by
  cases c with
  | present x => exact lexes_name (names x (by simp [Condition.names]))
  | found x =>
    have ofX := lexes_name (names x (by simp [Condition.names]))
    have other : Lexes " !== -1".toList [.sign "!==", .mark '-', .digits ['1']] := rfl
    exact lexes_append ofX other (.of_head rfl)

end Condition

namespace Statement

def tokens : Statement → List Token
  | .step s => s.tokens
  | .guarded c steps =>
    .keyword "if" :: .mark '(' :: (c.tokens ++ .mark ')' :: .mark '{' ::
      (steps.flatMap Step.tokens ++ [.mark '}']))

theorem lexes {s : Statement} (names : ∀ x ∈ s.names, isFree x) :
    LexesLines s.render s.tokens := by
  cases s with
  | step s =>
    have margin : Lexes "  ".toList [] := rfl
    exact Step.lexes margin rfl names
  | guarded c steps =>
    have margin : Lexes "    ".toList [] := rfl
    have front : Lexes "  if (".toList [.keyword "if", .mark '('] := rfl
    have ofC : Lexes c.render.toList c.tokens :=
      Condition.lexes fun y member => names y (List.mem_append_left _ member)
    have opening : Lexes ") \x7b".toList [.mark ')', .mark '{'] := rfl
    have closing : Lexes "  \x7d".toList [.mark '}'] := rfl
    have head := LexesLines.line (lexes_append (lexes_append front ofC (.of_last rfl)) opening
      (.of_head rfl))
    have inner : LexesLines (steps.flatMap (Step.render "    ")) (steps.flatMap Step.tokens) :=
      .flatMap fun s isStep => Step.lexes margin rfl fun y member =>
        names y (List.mem_append_right _ (List.mem_flatMap.mpr ⟨s, isStep, member⟩))
    simpa [render, tokens] using (head.append inner).append (.line closing)

end Statement

namespace Function

def tokens (f : Function) : List Token :=
  .keyword "export" :: .keyword "const" :: .name f.name :: .sign "=" :: .mark '(' ::
    (commaTokens (f.params.map fun x => [.name x]) ++ .mark ')' :: .sign "=>" :: .mark '{' ::
      (f.body.flatMap Statement.tokens ++ [.mark '}', .mark ';']))

theorem closed {f : Function} (names : ∀ x ∈ f.names, isFree x) :
    Closed f.render.toList f.tokens := by
  have front : Lexes "export const ".toList [.keyword "export", .keyword "const"] := rfl
  have ofName := lexes_name (names f.name (by simp [Function.names]))
  have opening : Lexes " = (".toList [.sign "=", .mark '('] := rfl
  have ofParams : Lexes (", ".intercalate (f.params.map id)).toList
      (commaTokens (f.params.map fun x => [.name x])) :=
    lexes_intercalate fun x member => lexes_name (names x (by simp [Function.names, member]))
  rw [List.map_id] at ofParams
  have middle : Lexes ") => \x7b".toList [.mark ')', .sign "=>", .mark '{'] := rfl
  have closing : Lexes "\x7d;".toList [.mark '}', .mark ';'] := rfl
  have head := LexesLines.line (lexes_append (lexes_append (lexes_append (lexes_append front ofName
    (.of_last rfl)) opening (.of_head rfl)) ofParams (.behind rfl)) middle (.of_head rfl))
  have inner : LexesLines (f.body.flatMap Statement.render) (f.body.flatMap Statement.tokens) :=
    .flatMap fun s isStatement => Statement.lexes fun y member =>
      names y (List.mem_append_right _ (List.mem_flatMap.mpr ⟨s, isStatement, member⟩))
  have whole := (head.append inner).append (.line closing)
  simpa [LexesLines, render, tokens] using whole

end Function

end MockData.Script
