import MockData.Json.Reader
import MockData.Text.Digit

/-!
Numbers of the data format. One that is written as a whole number and fits is whole; any other is
a double. A double is the leading digits that fit in 64 bits, scaled by a power of ten in double
arithmetic; one beyond the range of doubles is no number.
-/
namespace MockData.Json

open Text

/-- `negative n` stands for the number `-n`, which is below zero. -/
inductive Number
  | natural (n : UInt64)
  | negative (n : UInt64)
  | real (x : Float)
  deriving Repr

def startsWithDigit (cs : List Char) : Bool := cs.head?.any isAsciiDigit

def dropDigits (cs : List Char) : List Char := cs.dropWhile isAsciiDigit

/-- Takes digits into `n` for as long as it fits in 64 bits; counts the digits taken. -/
def absorb (n : Nat) : List Char → Nat × Nat × List Char
  | [] => (n, 0, [])
  | c :: cs =>
    if isAsciiDigit c && 10 * n + digitValue c < UInt64.size then
      let (n, count, rest) := absorb (10 * n + digitValue c) cs
      (n, count + 1, rest)
    else (n, 0, c :: cs)

def tenTo (e : Nat) : Float := Float.ofScientific 1 false e

/-- The double `n · 10^e`; powers of ten beyond 308 are taken in two steps. -/
def scale (n : Nat) (e : Int) : Except Failure Float :=
  let x := (UInt64.ofNat n).toFloat
  if 308 < e then
    if n = 0 then .ok 0 else .error .malformed
  else if 0 ≤ e then
    let y := x * tenTo e.toNat
    if y.isInf then .error .malformed else .ok y
  else if -308 ≤ e then .ok (x / tenTo (-e).toNat)
  else if -616 ≤ e then .ok (x / tenTo 308 / tenTo (-e - 308).toNat)
  else .ok 0

def signed (negative : Bool) (x : Float) : Float := if negative then -x else x

def realNumber (negative : Bool) (n : Nat) (e : Int) (rest : List Char) :
    Except Failure (Number × List Char) :=
  (scale n e).map fun x => (.real (signed negative x), rest)

/-- Reads an exponent from just after its letter. One beyond 31 bits makes any number but zero too
large or too small. -/
def exponent (negative : Bool) (n : Nat) (e : Int) (cs : List Char) :
    Except Failure (Number × List Char) :=
  let (down, cs) := match cs with
    | '+' :: cs => (false, cs)
    | '-' :: cs => (true, cs)
    | cs => (false, cs)
  match cs with
  | [] => .error .ended
  | c :: _ =>
    if isAsciiDigit c then
      let k := decimalValue (cs.takeWhile isAsciiDigit)
      let rest := dropDigits cs
      if k < 2147483648 then realNumber negative n (if down then e - k else e + k) rest
      else if n = 0 || down then .ok (.real (signed negative 0), rest)
      else .error .malformed
    else .error .malformed

def exponentOrEnd (negative : Bool) (n : Nat) (e : Int) : Reader Number
  | 'e' :: cs | 'E' :: cs => exponent negative n e cs
  | cs => realNumber negative n e cs

def fraction (negative : Bool) (n : Nat) (e : Int) (cs : List Char) :
    Except Failure (Number × List Char) :=
  let (m, count, rest) := absorb n cs
  if startsWithDigit rest then exponentOrEnd negative m (e - count) (dropDigits rest)
  else if count = 0 then .error (if rest.isEmpty then .ended else .malformed)
  else exponentOrEnd negative m (e - count) rest

def wholeNumber (negative : Bool) (n : Nat) : Number :=
  if negative then
    if n = 0 ∨ 9223372036854775808 < n then .real (-(UInt64.ofNat n).toFloat)
    else .negative (UInt64.ofNat n)
  else .natural (UInt64.ofNat n)

def afterDigits (negative : Bool) (n more : Nat) : Reader Number
  | '.' :: cs => fraction negative n more cs
  | 'e' :: cs | 'E' :: cs => exponent negative n more cs
  | cs => if more = 0 then .ok (wholeNumber negative n, cs) else realNumber negative n more cs

def unsignedNumber (negative : Bool) : Reader Number
  | [] => .error .ended
  | '0' :: cs => if startsWithDigit cs then .error .malformed else afterDigits negative 0 0 cs
  | c :: cs =>
    if isAsciiDigit c then
      let (n, _, rest) := absorb 0 (c :: cs)
      afterDigits negative n (rest.takeWhile isAsciiDigit).length (dropDigits rest)
    else .error .malformed

def skipExponent (cs : List Char) : Except Failure (List Char) :=
  let cs := match cs with
    | '+' :: cs | '-' :: cs => cs
    | cs => cs
  if startsWithDigit cs then .ok (dropDigits cs) else .error .malformed

def skipExponentOrEnd : List Char → Except Failure (List Char)
  | 'e' :: cs | 'E' :: cs => skipExponent cs
  | cs => .ok cs

def skipFractionOrEnd : List Char → Except Failure (List Char)
  | '.' :: cs =>
    if startsWithDigit cs then skipExponentOrEnd (dropDigits cs) else .error .malformed
  | cs => skipExponentOrEnd cs

def skipUnsignedNumber : List Char → Except Failure (List Char)
  | '0' :: cs => if startsWithDigit cs then .error .malformed else skipFractionOrEnd cs
  | cs => if startsWithDigit cs then skipFractionOrEnd (dropDigits cs) else .error .malformed

end MockData.Json
