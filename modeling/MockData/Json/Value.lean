import MockData.Text.Hex

/-!
Values of the data format, and their text. A style says how the parts of
an array or an object are set apart: in the compact one nothing stands between them, in the pretty
one each has its own line, two blanks deeper than what encloses it.
-/
namespace MockData.Json

open Text

/-- `decimal n places` is `n` divided by ten as often as it has places. -/
inductive Value
  | null
  | number (n : Int)
  | decimal (n : Int) (places : Nat)
  | text (s : String)
  | array (items : List Value)
  | object (members : List (String × Value))
  deriving Repr

/-- `gap` is written before each part at a depth and before the closing bracket. -/
structure Style where
  gap : Nat → List Char
  colon : List Char

namespace Style

def compact : Style := ⟨fun _ => [], [':']⟩

def pretty : Style := ⟨fun depth => '\n' :: List.replicate (2 * depth) ' ', [':', ' ']⟩

end Style

/-- How a character stands in a string: only the quote, the backslash and the control characters
below the space are escaped. -/
def quoteChar (c : Char) : List Char :=
  match c with
  | '"' => ['\\', '"']
  | '\\' => ['\\', '\\']
  | '\x08' => ['\\', 'b']
  | '\x0c' => ['\\', 'f']
  | '\n' => ['\\', 'n']
  | '\r' => ['\\', 'r']
  | '\t' => ['\\', 't']
  | c => if c.toNat < 0x20 then '\\' :: 'u' :: hex4 c.toNat else [c]

def quote (s : String) : List Char := '"' :: s.toList.flatMap quoteChar ++ ['"']

def decimalChars (n : Int) (places : Nat) : List Char :=
  let digits := (toString n.natAbs).toList
  let digits := List.replicate (places + 1 - digits.length) '0' ++ digits
  let whole := digits.take (digits.length - places)
  (if n < 0 then ['-'] else []) ++ whole ++ '.' :: digits.drop whole.length

def enclose (style : Style) (depth : Nat) (opening closing : Char) (parts : List (List Char)) :
    List Char :=
  if parts.isEmpty then [opening, closing]
  else opening :: [','].intercalate (parts.map (style.gap (depth + 1) ++ ·)) ++ style.gap depth
    ++ [closing]

namespace Value

def ofText? : Option String → Value
  | some s => .text s
  | none => .null

mutual

def chars (style : Style) (depth : Nat) : Value → List Char
  | .null => ['n', 'u', 'l', 'l']
  | .number n => (toString n).toList
  | .decimal n places => decimalChars n places
  | .text s => quote s
  | .array items => enclose style depth '[' ']' (itemChars style (depth + 1) items)
  | .object members => enclose style depth '\x7b' '\x7d' (memberChars style (depth + 1) members)

def itemChars (style : Style) (depth : Nat) : List Value → List (List Char)
  | [] => []
  | v :: vs => chars style depth v :: itemChars style depth vs

def memberChars (style : Style) (depth : Nat) : List (String × Value) → List (List Char)
  | [] => []
  | (name, v) :: ms =>
    (quote name ++ style.colon ++ chars style depth v) :: memberChars style depth ms

end

def render (style : Style) (v : Value) : String := String.ofList (v.chars style 0)

end Value

end MockData.Json
