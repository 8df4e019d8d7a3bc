import MockData.Proofs.Layouts
import MockData.Proofs.StringValues

/-!
The tokens of a module's text. Blanks and comments stand between tokens and are none themselves;
names and signs go as far as they can, so what stands side by side has to be told apart by the
characters where it meets.
-/
namespace MockData.Script

open Text

/-- `string` is a literal with its quotes, `digits` a word that starts with a digit. -/
inductive Token
  | name (x : String)
  | keyword (x : String)
  | digits (cs : List Char)
  | string (cs : List Char)
  | sign (s : String)
  | mark (c : Char)
  deriving DecidableEq, Repr

def reserved : List String := [
  "await", "break", "case", "catch", "class", "const", "continue", "debugger", "default", "delete",
  "do", "else", "enum", "export", "extends", "false", "finally", "for", "function", "if",
  "implements", "import", "in", "instanceof", "interface", "let", "new", "null", "package",
  "private", "protected", "public", "return", "static", "super", "switch", "this", "throw", "true",
  "try", "typeof", "var", "void", "while", "with", "yield"]

def isNameChar (c : Char) : Bool := isAsciiWord c || c == '$'

def signChars : List Char := ['=', '!', '>', '+', '.']

def isSignChar (c : Char) : Bool := signChars.contains c

theorem isSignChar_of_class {p : Char → Bool} (apart : signChars.all (!p ·)) {c : Char}
    (holds : p c) : isSignChar c = false := by
  by_contra sign
  simp only [isSignChar, Bool.not_eq_false, List.contains_iff_mem] at sign
  have other := List.all_eq_true.mp apart c sign
  rw [holds] at other
  cases other

def joins (c d : Char) : Bool := isNameChar c && isNameChar d || isSignChar c && isSignChar d

def runToken (cs : List Char) : List Token :=
  match cs with
  | [] => []
  | c :: _ =>
    let s := String.ofList cs
    if isAsciiDigit c then [.digits cs]
    else if isNameChar c then [if reserved.contains s then .keyword s else .name s]
    else [.sign s]

/-- `held` is what has been read of a token that may go on. -/
structure Lexer where
  mode : Mode
  held : List Char
  deriving DecidableEq, Repr

namespace Lexer

def start : Lexer := ⟨.code, []⟩

def begins (c : Char) : List Char := if isNameChar c || isSignChar c || isQuote c then [c] else []

def single (c : Char) : List Token :=
  if isNameChar c || isSignChar c || isQuote c || isBlank c || c == '/' then [] else [.mark c]

def next (l : Lexer) (c : Char) : Lexer where
  mode := l.mode.next c
  held := match l.mode with
    | .code => if l.held.getLast?.any (joins · c) then l.held ++ [c] else begins c
    | .slash => if c = '/' ∨ c = '*' then [] else begins c
    | .quoted q => if c ≠ '\\' ∧ c = q then [] else l.held ++ [c]
    | .escaped _ => l.held ++ [c]
    | .lineComment | .blockComment | .star => []

def emits (l : Lexer) (c : Char) : List Token :=
  match l.mode with
  | .code => if l.held.getLast?.any (joins · c) then [] else runToken l.held ++ single c
  | .slash => if c = '/' ∨ c = '*' then [] else .mark '/' :: single c
  | .quoted q => if c ≠ '\\' ∧ c = q then [.string (l.held ++ [c])] else []
  | .escaped _ | .lineComment | .blockComment | .star => []

def run (l : Lexer) (cs : List Char) : Lexer := cs.foldl next l

def ended (l : Lexer) : List Char → List Token
  | [] => []
  | c :: cs => l.emits c ++ (l.next c).ended cs

theorem run_append (l : Lexer) (a b : List Char) : l.run (a ++ b) = (l.run a).run b :=
  List.foldl_append

theorem ended_append (l : Lexer) (a b : List Char) :
    l.ended (a ++ b) = l.ended a ++ (l.run a).ended b := by
  induction a generalizing l with
  | nil => rfl
  | cons c a ih =>
    rw [List.cons_append, ended, ended, ih, List.append_assoc]
    rfl

theorem held_next (l : Lexer) (c : Char) : ∀ d ∈ (l.next c).held.getLast?, d = c := by
  have one : ∀ d ∈ (begins c).getLast?, d = c := by
    rw [begins]
    split <;> simp
  obtain ⟨mode, held⟩ := l
  cases mode with
  | code | slash | quoted q => simp only [next]; split <;> simp_all
  | escaped | lineComment | blockComment | star => simp [next]

theorem held_run_start {cs : List Char} :
    ∀ d ∈ (start.run cs).held.getLast?, d ∈ cs.getLast? := by
  rcases List.eq_nil_or_concat cs with rfl | ⟨cs, c, rfl⟩
  · simp [run, start]
  · intro d last
    rw [List.concat_eq_append, run_append] at last
    obtain rfl := held_next _ c d last
    simp

theorem step_of_apart {l : Lexer} {c : Char} (code : l.mode = .code)
    (apart : ∀ d ∈ l.held.getLast?, joins d c = false) :
    l.emits c = runToken l.held ++ start.emits c ∧ l.next c = start.next c := by
  obtain ⟨mode, held⟩ := l
  obtain rfl : mode = .code := code
  have parts : held.getLast?.any (joins · c) = false := by
    cases last : held.getLast? with
    | none => rfl
    | some d => exact apart d last
  constructor
  · simp only [emits, parts]
    rfl
  · simp only [next, parts]
    rfl

end Lexer

/-- The tokens of a text; a text that ends inside a literal or a comment has none. -/
def tokens? (cs : List Char) : Option (List Token) :=
  let l := Lexer.start.run cs
  if l.mode = .code then some (Lexer.start.ended cs ++ runToken l.held) else none

def Lexes (cs : List Char) (ts : List Token) : Prop := tokens? cs = some ts

instance (cs : List Char) (ts : List Token) : Decidable (Lexes cs ts) :=
  inferInstanceAs (Decidable (tokens? cs = some ts))

/-- No token goes on from the one text into the other. -/
def Apart (a b : List Char) : Prop :=
  ∀ c ∈ a.getLast?, ∀ d ∈ b.head?, joins c d = false

namespace Lexes

variable {a b : List Char} {ts us : List Token}

theorem iff : Lexes a ts ↔
    (Lexer.start.run a).mode = .code ∧
      Lexer.start.ended a ++ runToken (Lexer.start.run a).held = ts := by
  rw [Lexes, tokens?]
  split <;> simp_all

theorem append (ha : Lexes a ts) (hb : Lexes b us) (apart : Apart a b) :
    Lexes (a ++ b) (ts ++ us) := by
  obtain ⟨code, rfl⟩ := iff.mp ha
  obtain ⟨codeB, rfl⟩ := iff.mp hb
  cases b with
  | nil => simpa [Lexer.ended, Lexer.run, Lexer.start, runToken] using ha
  | cons c b =>
    obtain ⟨emitted, next⟩ := Lexer.step_of_apart code fun d last =>
      apart d (Lexer.held_run_start d last) c rfl
    have later : (Lexer.start.run a).run (c :: b) = Lexer.start.run (c :: b) := by
      rw [Lexer.run, List.foldl_cons, next]
      rfl
    refine iff.mpr ⟨by rw [Lexer.run_append, later, codeB], ?_⟩
    rw [Lexer.ended_append, Lexer.run_append, later, Lexer.ended, emitted, next, Lexer.ended]
    simp

theorem of_isAsciiWord {cs : List Char} (word : ∀ c ∈ cs, isAsciiWord c) :
    Lexes cs (runToken cs) := by
  have each : ∀ held : List Char, (∀ c ∈ held.getLast?, isAsciiWord c) →
      (Lexer.mk .code held).run cs = ⟨.code, held ++ cs⟩ ∧
        (Lexer.mk .code held).ended cs = [] := by
    induction cs with
    | nil => exact fun held _ => ⟨by simp [Lexer.run], rfl⟩
    | cons c cs ih =>
      intro held inWord
      obtain ⟨first, later⟩ := List.forall_mem_cons.mp word
      have stays : Mode.code.next c = .code := next_code_of_isPlain (isPlain_of_isAsciiWord first)
      have nameChar : isNameChar c = true := by simp [isNameChar, first]
      have step : (Lexer.mk .code held).next c = ⟨.code, held ++ [c]⟩ ∧
          (Lexer.mk .code held).emits c = [] := by
        rcases List.eq_nil_or_concat held with rfl | ⟨front, d, rfl⟩
        · simp [Lexer.next, Lexer.emits, Lexer.begins, Lexer.single, stays, nameChar, runToken]
        · have joined : joins d c = true := by
            have inName : isNameChar d = true := by simp [isNameChar, inWord d (by simp)]
            simp [joins, inName, nameChar]
          simp [Lexer.next, Lexer.emits, stays, joined]
      obtain ⟨ran, endsNone⟩ := ih later (held ++ [c]) (by simpa using first)
      rw [Lexer.run, List.foldl_cons, Lexer.ended, step.1, step.2]
      exact ⟨by simpa [Lexer.run] using ran, endsNone⟩
  obtain ⟨ran, endsNone⟩ := each [] (by simp)
  refine iff.mpr ⟨by rw [Lexer.start, ran], ?_⟩
  rw [Lexer.start, ran, endsNone]
  rfl

theorem ended_of_wellEscaped {body : List Char} (escaped : WellEscaped body) (held : List Char) :
    (Lexer.mk (.quoted '"') held).run body = ⟨.quoted '"', held ++ body⟩ ∧
      (Lexer.mk (.quoted '"') held).ended body = [] := by
  induction escaped generalizing held with
  | nil => exact ⟨by simp [Lexer.run], rfl⟩
  | @raw c cs notQuote notEscape _ _ ih =>
    obtain ⟨ran, endsNone⟩ := ih (held ++ [c])
    have next : (Lexer.mk (.quoted '"') held).next c = ⟨.quoted '"', held ++ [c]⟩ := by
      simp [Lexer.next, Mode.next, notQuote, notEscape]
    rw [Lexer.run, List.foldl_cons, Lexer.ended, next]
    exact ⟨by simpa [Lexer.run] using ran, by simp [endsNone, Lexer.emits, notQuote]⟩
  | @short e cs named _ ih =>
    obtain ⟨ran, endsNone⟩ := ih (held ++ ['\\', e])
    exact ⟨by simpa [Lexer.run, Lexer.next, Mode.next] using ran,
      by simpa [Lexer.ended, Lexer.emits, Lexer.next, Mode.next] using endsNone⟩
  | @unit a b c d n cs digits _ ih =>
    obtain ⟨ran, endsNone⟩ := ih (held ++ ['\\', 'u', a, b, c, d])
    have ofDigits : ∀ e ∈ [a, b, c, d], e ≠ '"' ∧ e ≠ '\\' := fun e member => by
      obtain ⟨m, digit⟩ := (hexValue?_eq_some digits).1 e member
      exact ne_of_hexDigit? digit
    simp only [List.forall_mem_cons] at ofDigits
    exact ⟨by simpa [Lexer.run, Lexer.next, Mode.next, ofDigits] using ran,
      by simpa [Lexer.ended, Lexer.emits, Lexer.next, Mode.next, ofDigits] using endsNone⟩

theorem quote (s : String) : Lexes (quote s).toList [.string (quote s).toList] := by
  have text : (Script.quote s).toList = '"' :: (quoteBody s.toList ++ ['"']) := by
    simp [Script.quote]
  obtain ⟨ran, endsNone⟩ := ended_of_wellEscaped (wellEscaped_quoteBody s.toList) ['"']
  have opening : Lexer.start.next '"' = ⟨.quoted '"', ['"']⟩ ∧ Lexer.start.emits '"' = [] := by
    decide
  have inside : Lexer.start.run ('"' :: quoteBody s.toList) =
      ⟨.quoted '"', '"' :: quoteBody s.toList⟩ := by
    rw [Lexer.run, List.foldl_cons, opening.1]
    exact ran
  have quiet : Lexer.start.ended ('"' :: quoteBody s.toList) = [] := by
    rw [Lexer.ended, opening.1, opening.2, endsNone, List.nil_append]
  rw [text, ← List.cons_append]
  refine iff.mpr ⟨?_, ?_⟩
  · rw [Lexer.run_append, inside]
    rfl
  · rw [Lexer.ended_append, Lexer.run_append, inside, quiet]
    rfl

theorem digits (n : Nat) : Lexes (Nat.toDigits 10 n) [.digits (Nat.toDigits 10 n)] := by
  have word : ∀ c ∈ Nat.toDigits 10 n, isAsciiWord c := by
    intro c member
    have digit := isAsciiDigit_toDigits member
    rw [isAsciiDigit] at digit
    simp [isAsciiWord, digit]
  have lexes := of_isAsciiWord word
  obtain ⟨d, ds, split⟩ := List.exists_cons_of_ne_nil (Nat.toDigits_ne_nil (b := 10) (n := n))
  have digit : isAsciiDigit d := isAsciiDigit_toDigits (split ▸ List.mem_cons_self)
  have token : runToken (Nat.toDigits 10 n) = [.digits (Nat.toDigits 10 n)] := by
    rw [split]
    simp [runToken, digit]
  rwa [token] at lexes

theorem name {x : String} (identifier : isIdentifier x) (free : x ∉ reserved) :
    Lexes x.toList [.name x] := by
  have lexes := of_isAsciiWord (isAsciiWord_of_isIdentifier identifier).2
  have token : runToken x.toList = [.name x] := by
    rw [isIdentifier] at identifier
    split at identifier
    · contradiction
    · rename_i c cs letters
      simp only [Bool.and_eq_true, Bool.not_eq_true'] at identifier
      rw [letters, runToken, ← letters]
      simp [isNameChar, identifier, free]
  rwa [token] at lexes

end Lexes

def isLoose (c : Char) : Bool := !isNameChar c && !isSignChar c

theorem joins_of_isLoose {c : Char} (loose : isLoose c) (d : Char) :
    joins c d = false ∧ joins d c = false := by
  simp only [isLoose, Bool.and_eq_true, Bool.not_eq_true'] at loose
  simp [joins, loose]

namespace Apart

variable {a b : List Char}

theorem of_head (loose : b.head?.any isLoose) : Apart a b := by
  intro c _ d first
  rw [first] at loose
  exact (joins_of_isLoose loose c).2

theorem of_last (loose : a.getLast?.any isLoose) : Apart a b := by
  intro c last d _
  rw [last] at loose
  exact (joins_of_isLoose loose d).1

theorem behind {s t : String} (loose : t.toList.getLast?.any isLoose) :
    Apart (s ++ t).toList b := by
  refine of_last ?_
  rw [String.toList_append, List.getLast?_append]
  cases last : t.toList.getLast? with
  | none => simp [last] at loose
  | some c => simpa [last] using loose

end Apart

theorem ended_of_staysInside {m : Mode} {cs : List Char} (inside : StaysInside m cs) :
    (Lexer.mk m []).run cs = ⟨m.run cs, []⟩ ∧ (Lexer.mk m []).ended cs = [] := by
  induction cs generalizing m with
  | nil => exact ⟨rfl, rfl⟩
  | cons c cs ih =>
    obtain ⟨now, later⟩ := inside
    have next : (Lexer.mk m []).next c = ⟨m.next c, []⟩ := by rcases now with rfl | rfl <;> rfl
    have emits : (Lexer.mk m []).emits c = [] := by rcases now with rfl | rfl <;> rfl
    obtain ⟨ran, endsNone⟩ := ih later
    rw [Lexer.run, List.foldl_cons, Lexer.ended, next, emits]
    exact ⟨ran, endsNone⟩

theorem lexes_comment {ls : List String} (unended : ∀ l ∈ ls, ¬ ['*', '/'] <:+: l.toList) :
    Lexes (Layout.comment ls).toList [] := by
  obtain ⟨inside, last⟩ := staysInside_commentLines unended
  obtain ⟨ran, endsNone⟩ := ended_of_staysInside inside
  have opening : Lexer.start.run ['/', '*', '*', '\n'] = ⟨.blockComment, []⟩ ∧
      Lexer.start.ended ['/', '*', '*', '\n'] = [] := by decide
  have closing : (Lexer.mk .blockComment []).run [' ', '*', '/', '\n'] = .start ∧
      (Lexer.mk .blockComment []).ended [' ', '*', '/', '\n'] = [] := by decide
  rw [toList_comment]
  refine Lexes.iff.mpr ⟨?_, ?_⟩
  · rw [Lexer.run_append, Lexer.run_append, opening.1, ran, last, closing.1]
    rfl
  · rw [Lexer.ended_append, Lexer.ended_append, Lexer.run_append, Lexer.run_append, opening.1,
      opening.2, ran, endsNone, last, closing.1, closing.2]
    rfl

theorem lexes_append {a b : String} {ts us : List Token} (ha : Lexes a.toList ts)
    (hb : Lexes b.toList us) (apart : Apart a.toList b.toList) :
    Lexes (a ++ b).toList (ts ++ us) := by
  rw [String.toList_append]
  exact ha.append hb apart

end MockData.Script
