import MockData.Regex.Syntax
import MockData.Text.Digit

/-!
Fields of a log directive: a name, and maybe a value behind an equals sign. A value is a number or
a regular expression.
-/
namespace MockData.LogField

open Text

def dropSign : List Char → List Char
  | '+' :: cs | '-' :: cs => cs
  | cs => cs

def isWhole (cs : List Char) : Bool := !cs.isEmpty && cs.all isAsciiDigit

def isPointed (cs : List Char) : Bool :=
  match cs.dropWhile (· ≠ '.') with
  | [] => isWhole cs
  | _ :: fraction => isWhole (cs.takeWhile (· ≠ '.') ++ fraction)

def isExponentSign (c : Char) : Bool := c = 'e' || c = 'E'

def isNumber (cs : List Char) : Bool :=
  let cs := dropSign cs
  if (String.ofList cs).toLower ∈ ["inf", "infinity", "nan"] then true
  else
    isPointed (cs.takeWhile (!isExponentSign ·)) &&
      match cs.dropWhile (!isExponentSign ·) with
      | [] => true
      | _ :: exponent => isWhole (dropSign exponent)

def isValue (cs : List Char) : Bool := isNumber cs || Regex.isValid cs

/-- The value of a field ends at a second equals sign; what follows that does not matter. -/
def isField (cs : List Char) : Bool :=
  match cs.dropWhile (· ≠ '=') with
  | [] => !cs.isEmpty
  | _ :: value => isValue (value.takeWhile (· ≠ '='))

end MockData.LogField
