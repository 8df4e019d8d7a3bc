import MockData.Json.Number
import MockData.Json.Quoted

/-!
Passing over a value whose content does not matter, however deep it is. What is still open is kept
as a list of brackets, the innermost first.
-/
namespace MockData.Json

inductive Bracket
  | square
  | curly
  deriving DecidableEq, Repr

def skipScalar : List Char → Except Failure (List Char)
  | [] => .error .ended
  | 'n' :: cs => word ['u', 'l', 'l'] cs
  | 't' :: cs => word ['r', 'u', 'e'] cs
  | 'f' :: cs => word ['a', 'l', 's', 'e'] cs
  | '"' :: cs => skipQuotedRest cs
  | '-' :: cs => skipUnsignedNumber cs
  | cs => if startsWithDigit cs then skipUnsignedNumber cs else .error .malformed

def skipName (cs : List Char) : Except Failure (List Char) :=
  match dropBlanks cs with
  | [] => .error .ended
  | '"' :: cs => do
    match dropBlanks (← skipQuotedRest cs) with
    | [] => .error .ended
    | ':' :: cs => .ok cs
    | _ => .error .malformed
  | _ => .error .malformed

mutual

def skipOpen (fuel : Nat) (outer : List Bracket) (cs : List Char) :
    Except Failure (List Char) :=
  match fuel with
  | 0 => .error .ended
  | fuel + 1 => match dropBlanks cs with
    | '[' :: cs => match dropBlanks cs with
      | ']' :: cs => skipClosing fuel outer cs
      | cs => skipOpen fuel (.square :: outer) cs
    | '\x7b' :: cs => match dropBlanks cs with
      | '\x7d' :: cs => skipClosing fuel outer cs
      | cs => match skipName cs with
        | .ok cs => skipOpen fuel (.curly :: outer) cs
        | .error e => .error e
    | cs => match skipScalar cs with
      | .ok cs => skipClosing fuel outer cs
      | .error e => .error e

def skipClosing (fuel : Nat) (outer : List Bracket) (cs : List Char) :
    Except Failure (List Char) :=
  match fuel with
  | 0 => .error .ended
  | fuel + 1 => match outer with
    | [] => .ok cs
    | .square :: outer => match dropBlanks cs with
      | [] => .error .ended
      | ']' :: cs => skipClosing fuel outer cs
      | ',' :: cs => skipOpen fuel (.square :: outer) cs
      | _ => .error .malformed
    | .curly :: outer => match dropBlanks cs with
      | [] => .error .ended
      | '\x7d' :: cs => skipClosing fuel outer cs
      | ',' :: cs => match skipName cs with
        | .ok cs => skipOpen fuel (.curly :: outer) cs
        | .error e => .error e
      | _ => .error .malformed

end

/-- A value takes at most two steps for each of its characters, and one to end. -/
def skipValue (cs : List Char) : Except Failure (List Char) := skipOpen (2 * cs.length + 2) [] cs

end MockData.Json
