import MockData.Text.Blank
import MockData.Text.Digit

/-!
Days of the Gregorian calendar, extended to all years before its start, and their form
year-month-day. Reading is lenient about it: blanks may stand before each number, and month and
day may have one digit.
-/
namespace MockData

open Text

structure Date where
  year : Int
  month : Nat
  day : Nat
  deriving DecidableEq, Repr

namespace Date

def isLeap (year : Int) : Bool := year % 4 = 0 && (year % 100 ≠ 0 || year % 400 = 0)

def monthLength (year : Int) (month : Nat) : Nat :=
  if month = 2 then (if isLeap year then 29 else 28)
  else if month ∈ [4, 6, 9, 11] then 30 else 31

/-- Whether the calendar has this day. Its years have a first and a last. -/
def isDay (d : Date) : Bool :=
  -262143 ≤ d.year && d.year ≤ 262142 && 1 ≤ d.month && d.month ≤ 12
    && 1 ≤ d.day && d.day ≤ monthLength d.year d.month

/-- The ASCII digits at the front, `limit` of them at most, and what follows; at least one is
needed. -/
def number (limit : Nat) (cs : List Char) : Option (Nat × List Char) :=
  let ds := (cs.take limit).takeWhile isAsciiDigit
  if ds.isEmpty then none else some (decimalValue ds, cs.drop ds.length)

/-- A year of up to four digits, or of any number of them after a sign. -/
def yearNumber : List Char → Option (Int × List Char)
  | '+' :: cs => (number cs.length cs).map fun p => (p.1, p.2)
  | '-' :: cs => (number cs.length cs).map fun p => (-p.1, p.2)
  | cs => (number 4 cs).map fun p => (p.1, p.2)

def hyphen : List Char → Option (List Char)
  | '-' :: cs => some cs
  | _ => none

def ofChars? (cs : List Char) : Option Date := do
  let (y, cs) ← yearNumber (dropBlanks cs)
  let (m, cs) ← number 2 (dropBlanks (← hyphen cs))
  let (d, cs) ← number 2 (dropBlanks (← hyphen cs))
  let date : Date := ⟨y, m, d⟩
  if cs.isEmpty && date.isDay then some date else none

def ofText? (s : String) : Option Date := ofChars? s.toList

theorem isDay_of_ofChars? {cs : List Char} {d : Date} (h : ofChars? cs = some d) : d.isDay := by
  simp only [ofChars?, Option.bind_eq_bind, Option.bind_eq_some_iff] at h
  obtain ⟨_, _, _, _, _, _, _, _, _, _, h⟩ := h
  split at h
  · simp_all
  · simp at h

end Date

end MockData
