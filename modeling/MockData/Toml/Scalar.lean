import MockData.Date
import MockData.Text.Hex
import MockData.Toml.Value

/-!
Values of a settings file that are written without quotes or brackets: truth values, numbers, and
points in time. Digits may be set apart by single low lines.
-/
namespace MockData.Toml

open Text

def grouped (isDigit : Char → Bool) : List Char → Option (List Char)
  | [] => none
  | [c] => if isDigit c then some [c] else none
  | c :: '_' :: cs => if isDigit c then (grouped isDigit cs).map (c :: ·) else none
  | c :: cs => if isDigit c then (grouped isDigit cs).map (c :: ·) else none

def wholeDigits (cs : List Char) : Option (List Char) :=
  match grouped isAsciiDigit cs with
  | some ('0' :: _ :: _) => none
  | ds => ds

def isHexDigit (c : Char) : Bool := (hexDigit? c).isSome
def isOctalDigit (c : Char) : Bool := '0' ≤ c && c ≤ '7'
def isBinaryDigit (c : Char) : Bool := c = '0' || c = '1'

def valueIn (base : Nat) (ds : List Char) : Nat :=
  ds.foldl (fun n c => base * n + (hexDigit? c).getD 0) 0

def splitSign : List Char → Bool × List Char
  | '+' :: cs => (false, cs)
  | '-' :: cs => (true, cs)
  | cs => (false, cs)

def integer? (cs : List Char) : Option Int := do
  let n : Int ← match cs with
    | '0' :: 'x' :: cs => (grouped isHexDigit cs).map fun ds => (valueIn 16 ds : Int)
    | '0' :: 'o' :: cs => (grouped isOctalDigit cs).map fun ds => (valueIn 8 ds : Int)
    | '0' :: 'b' :: cs => (grouped isBinaryDigit cs).map fun ds => (valueIn 2 ds : Int)
    | cs =>
      let (negative, cs) := splitSign cs
      (wholeDigits cs).map fun ds => if negative then -(valueIn 10 ds : Int) else valueIn 10 ds
  if -9223372036854775808 ≤ n ∧ n ≤ 9223372036854775807 then some n else none

def nearest (n : Nat) (e : Int) : Float :=
  let size : Int := (toString n).length
  if n = 0 ∨ e + size < -400 then 0
  else if 400 < e + size then 1 / 0
  else if e < 0 then Float.ofScientific n true (-e).toNat
  else Float.ofScientific n false e.toNat

def splitAt? (p : Char → Bool) (cs : List Char) : List Char × Option (List Char) :=
  match cs.dropWhile (!p ·) with
  | [] => (cs, none)
  | _ :: rest => (cs.takeWhile (!p ·), some rest)

def decimalFloat? (cs : List Char) : Option Float := do
  let (negative, cs) := splitSign cs
  let (mantissa, exponent) := splitAt? (fun c => c = 'e' || c = 'E') cs
  let (whole, fraction) := splitAt? (· = '.') mantissa
  if exponent.isNone ∧ fraction.isNone then none
  let ws ← wholeDigits whole
  let fs ← match fraction with
    | none => some []
    | some fs => grouped isAsciiDigit fs
  let e : Int ← match exponent with
    | none => some 0
    | some es =>
      let (down, es) := splitSign es
      (grouped isAsciiDigit es).map fun ds => if down then -(valueIn 10 ds : Int) else valueIn 10 ds
  let x := nearest (valueIn 10 (ws ++ fs)) (e - fs.length)
  return if negative then -x else x

/-- No number rounds to infinity from above; infinity itself has a word. -/
def float? (cs : List Char) : Option Float :=
  let (negative, word) := splitSign cs
  if word = ['i', 'n', 'f'] then some (if negative then -(1 / 0) else 1 / 0)
  else if word = ['n', 'a', 'n'] then some (0 / 0)
  else match decimalFloat? cs with
    | some x => if x == 1 / 0 then none else some x
    | none => none

def twoDigits? (a b : Char) : Option Nat :=
  if isAsciiDigit a && isAsciiDigit b then some (decimalValue [a, b]) else none

def isDate : List Char → Bool
  | [a, b, c, d, '-', e, f, '-', g, h] =>
    [a, b, c, d].all isAsciiDigit && match twoDigits? e f, twoDigits? g h with
      | some month, some day => Date.isDay ⟨decimalValue [a, b, c, d], month, day⟩
      | _, _ => false
  | _ => false

def isOffset : List Char → Bool
  | [] | ['Z'] | ['z'] => true
  | [sign, a, b, ':', c, d] =>
    (sign = '+' || sign = '-') && (twoDigits? a b).any (· < 24) && (twoDigits? c d).any (· < 60)
  | _ => false

/-- Whether the text is a time of day; what may follow it is for `ending` to say. Leap seconds are
allowed for. -/
def isTime (ending : List Char → Bool) : List Char → Bool
  | a :: b :: ':' :: c :: d :: ':' :: e :: f :: rest =>
    (twoDigits? a b).any (· < 24) && (twoDigits? c d).any (· < 60) && (twoDigits? e f).any (· < 61)
      && match rest with
        | '.' :: rest =>
          rest.head?.any isAsciiDigit && ending (rest.dropWhile isAsciiDigit)
        | rest => ending rest
  | _ => false

def isDateTime (cs : List Char) : Bool :=
  isDate cs || isTime List.isEmpty cs
    || match cs.drop 10 with
      | c :: rest => isDate (cs.take 10) && (c = 'T' || c = 't' || c = ' ') && isTime isOffset rest
      | [] => false

def scalar? (cs : List Char) : Option Value :=
  if cs = "true".toList then some (.boolean true)
  else if cs = "false".toList then some (.boolean false)
  else if isDateTime cs then some .dateTime
  else ((integer? cs).map .integer).or ((float? cs).map .float)

def isWordChar (c : Char) : Bool :=
  ('a' ≤ c && c ≤ 'z') || ('A' ≤ c && c ≤ 'Z') || ('0' ≤ c && c ≤ '9')
    || c = '_' || c = '+' || c = '-' || c = '.' || c = ':'

/-- The word at the front of a text. A date takes a time that follows it after one blank. -/
def takeWord (cs : List Char) : List Char × List Char :=
  let word := cs.takeWhile isWordChar
  match cs.dropWhile isWordChar with
  | ' ' :: rest =>
    if isDate word && rest.head?.any isAsciiDigit then
      (word ++ ' ' :: rest.takeWhile isWordChar, rest.dropWhile isWordChar)
    else (word, ' ' :: rest)
  | rest => (word, rest)

end MockData.Toml
