/-!
Lexing of module text, one character at a time. What a character means depends on what stands
before it: in code, or inside a string literal or a comment. Regular expression literals are not
told from division. A literal can also be skipped by its bytes, two of them at a backslash, even if
this leads into the middle of a character.
-/
namespace MockData.Script

/-- Where a lexer stands after the characters read so far. `slash` is code just after a slash,
which may still open a comment; `star` is a block comment just after a star. -/
inductive Mode
  | code
  | slash
  | quoted (quote : Char)
  | escaped (quote : Char)
  | lineComment
  | blockComment
  | star
  deriving DecidableEq, Repr

def isQuote (c : Char) : Bool := c = '"' || c = '\'' || c = '`'

namespace Mode

def fromCode (c : Char) : Mode :=
  if isQuote c then .quoted c else if c = '/' then .slash else .code

/-- The mode after one more character. A backslash in a literal takes the next character with it,
whatever that is. -/
def next : Mode → Char → Mode
  | .code, c => fromCode c
  | .slash, c => if c = '/' then .lineComment else if c = '*' then .blockComment else fromCode c
  | .quoted q, c => if c = '\\' then .escaped q else if c = q then .code else .quoted q
  | .escaped q, _ => .quoted q
  | .lineComment, c => if c = '\n' then .code else .lineComment
  | .blockComment, c => if c = '*' then .star else .blockComment
  | .star, c => if c = '/' then .code else if c = '*' then .star else .blockComment

def run (m : Mode) (cs : List Char) : Mode := cs.foldl next m

def isCode : Mode → Bool
  | .code | .slash => true
  | _ => false

@[simp] theorem run_nil (m : Mode) : m.run [] = m := rfl

@[simp] theorem run_cons (m : Mode) (c : Char) (cs : List Char) :
    m.run (c :: cs) = (m.next c).run cs := rfl

theorem run_append (m : Mode) (a b : List Char) : m.run (a ++ b) = (m.run a).run b :=
  List.foldl_append

end Mode

def skipBody (text : List UInt8) (quote : UInt8) (i : Nat) : Nat :=
  if _ : i < text.length then
    if text[i] = '\\'.toUInt8 then skipBody text quote (i + 2)
    else if text[i] = quote then i + 1
    else skipBody text quote (i + 1)
  else text.length
termination_by text.length - i

/-- The index behind the literal that the quote at index `start` opens, or that of the end. -/
def skipLiteral (text : List UInt8) (start : Nat) : Nat :=
  if _ : start < text.length then skipBody text text[start] (start + 1) else text.length

end MockData.Script
