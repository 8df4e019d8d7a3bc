import MockData.Text.Hex
import MockData.Text.Surrogate

/-!
Reading the body of a string literal. An escape of four hexadecimal digits names a sixteen-bit
unit; the units are joined to characters only after all escapes have been read, so that a pair
of surrogates is one character and a lone one becomes U+FFFD.
-/
namespace MockData.Script

open Text

inductive Piece
  | char (c : Char)
  | unit (n : Nat)
  deriving DecidableEq, Repr

/-- The character of an escape without digits; a letter with no meaning of its own stands for
itself. -/
def simpleEscape : Char → Char
  | 'n' => '\n'
  | 'r' => '\r'
  | 't' => '\t'
  | 'b' => '\x08'
  | 'f' => '\x0c'
  | 'v' => '\x0b'
  | '0' => '\x00'
  | c => c

def pieces : List Char → List Piece
  | [] => []
  | '\\' :: 'u' :: a :: b :: c :: d :: rest => match hexValue? [a, b, c, d] with
    | some n => .unit n :: pieces rest
    | none => .char 'u' :: pieces (a :: b :: c :: d :: rest)
  | '\\' :: c :: rest => .char (simpleEscape c) :: pieces rest
  | c :: rest => .char c :: pieces rest

def joinUnits : List Piece → List Char
  | [] => []
  | .char c :: rest => c :: joinUnits rest
  | [.unit n] => [ofUnit n]
  | .unit n :: .char c :: rest => ofUnit n :: c :: joinUnits rest
  | .unit n :: .unit m :: rest =>
    if isHighSurrogate n && isLowSurrogate m then ofSurrogates n m :: joinUnits rest
    else ofUnit n :: joinUnits (.unit m :: rest)

def unescape (body : List Char) : List Char := joinUnits (pieces body)

end MockData.Script
