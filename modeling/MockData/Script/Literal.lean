import MockData.Text.Hex

/-!
Literals of a module: strings in double quotes, whole numbers, and null.
-/
namespace MockData.Script

open Text

inductive Literal
  | text (s : String)
  | int (n : Int64)
  | null
  deriving DecidableEq, Repr

def Literal.ofText? : Option String → Literal
  | some s => .text s
  | none => .null

/-- How a character stands in a string literal. The ASCII control characters and the two line
separators are escaped, as are the quote and the backslash; any other character stands for
itself. -/
def quoteChar (c : Char) : List Char :=
  match c with
  | '\\' => ['\\', '\\']
  | '"' => ['\\', '"']
  | '\n' => ['\\', 'n']
  | '\r' => ['\\', 'r']
  | '\t' => ['\\', 't']
  | '\x08' => ['\\', 'b']
  | '\x0c' => ['\\', 'f']
  | '\x0b' => ['\\', 'v']
  | c =>
    if c.toNat < 0x20 || c.toNat = 0x7F || c.toNat = 0x2028 || c.toNat = 0x2029 then
      '\\' :: 'u' :: hex4 c.toNat
    else [c]

def quoteBody (cs : List Char) : List Char := cs.flatMap quoteChar

def quote (s : String) : String := String.ofList ('"' :: quoteBody s.toList ++ ['"'])

def Literal.render : Literal → String
  | .text s => quote s
  | .int n => toString n.toInt
  | .null => "null"

end MockData.Script
