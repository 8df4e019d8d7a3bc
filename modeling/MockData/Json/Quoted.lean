import MockData.Json.Reader
import MockData.Text.Hex
import MockData.Text.Measure
import MockData.Text.Surrogate

/-!
Strings of the data format. A string that is read has to denote a text, so its surrogates have to
come in pairs; one that is only passed over does not.
-/
namespace MockData.Json

open Text

def simpleEscape? : Char → Option Char
  | '"' => some '"'
  | '\\' => some '\\'
  | '/' => some '/'
  | 'b' => some '\x08'
  | 'f' => some '\x0c'
  | 'n' => some '\n'
  | 'r' => some '\r'
  | 't' => some '\t'
  | _ => none

/-- What is wrong where four hexadecimal digits should stand: too few bytes are left for them, or
there is something else. -/
def hexFailure (cs : List Char) : Failure := if byteSize cs < 4 then .ended else .malformed

def prepend (c : Char) :
    Except Failure (List Char × List Char) → Except Failure (List Char × List Char)
  | .ok (cs, rest) => .ok (c :: cs, rest)
  | .error e => .error e

def quotedRest : Reader (List Char)
  | [] => .error .ended
  | '"' :: cs => .ok ([], cs)
  | '\\' :: 'u' :: a :: b :: c :: d :: cs =>
    match hexValue? [a, b, c, d] with
    | none => .error .malformed
    | some high =>
      if isLowSurrogate high then .error .malformed
      else if isHighSurrogate high then
        match cs with
        | '\\' :: 'u' :: e :: f :: g :: h :: cs =>
          match hexValue? [e, f, g, h] with
          | none => .error .malformed
          | some low =>
            if isLowSurrogate low then prepend (ofSurrogates high low) (quotedRest cs)
            else .error .malformed
        | '\\' :: 'u' :: cs => .error (hexFailure cs)
        | [] | ['\\'] => .error .ended
        | _ => .error .malformed
      else prepend (ofUnit high) (quotedRest cs)
  | '\\' :: 'u' :: cs => .error (hexFailure cs)
  | ['\\'] => .error .ended
  | '\\' :: c :: cs => match simpleEscape? c with
    | some e => prepend e (quotedRest cs)
    | none => .error .malformed
  | c :: cs => if c.toNat < 0x20 then .error .malformed else prepend c (quotedRest cs)

def skipQuotedRest : List Char → Except Failure (List Char)
  | [] => .error .ended
  | '"' :: cs => .ok cs
  | '\\' :: 'u' :: a :: b :: c :: d :: cs =>
    if (hexValue? [a, b, c, d]).isSome then skipQuotedRest cs else .error .malformed
  | '\\' :: 'u' :: cs => .error (hexFailure cs)
  | ['\\'] => .error .ended
  | '\\' :: c :: cs => if (simpleEscape? c).isSome then skipQuotedRest cs else .error .malformed
  | c :: cs => if c.toNat < 0x20 then .error .malformed else skipQuotedRest cs

end MockData.Json
