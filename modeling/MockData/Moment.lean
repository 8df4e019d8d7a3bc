import MockData.Date

/-!
Points in universal time, and their form as a date with a time of day.
-/
namespace MockData

/-- The day that comes so many days after the first of January 1970. Years are counted from March
on, so that a leap day is the last of its year, in spans of four hundred. -/
def Date.ofDayNumber (days : Int) : Date :=
  let shifted := days + 719468
  let span := shifted / 146097
  let dayOfSpan := (shifted % 146097).toNat
  let yearOfSpan := (dayOfSpan - dayOfSpan / 1460 + dayOfSpan / 36524 - dayOfSpan / 146096) / 365
  let dayOfYear := dayOfSpan - (365 * yearOfSpan + yearOfSpan / 4 - yearOfSpan / 100)
  let month := (5 * dayOfYear + 2) / 153
  let day := dayOfYear - (153 * month + 2) / 5 + 1
  let year := 400 * span + yearOfSpan
  if month < 10 then ⟨year, month + 3, day⟩ else ⟨year + 1, month - 9, day⟩

def padded (width n : Nat) : String :=
  let digits := toString n
  String.ofList (List.replicate (width - digits.length) '0') ++ digits

/-- `seconds` count from the beginning of 1970. -/
structure Moment where
  seconds : Nat
  nanoseconds : Nat
  deriving DecidableEq, Repr

def Moment.text (m : Moment) : String :=
  let date := Date.ofDayNumber (m.seconds / 86400)
  let time := m.seconds % 86400
  padded 4 date.year.toNat ++ "-" ++ padded 2 date.month ++ "-" ++ padded 2 date.day
    ++ "T" ++ padded 2 (time / 3600) ++ ":" ++ padded 2 (time / 60 % 60) ++ ":"
    ++ padded 2 (time % 60) ++ "." ++ padded 9 m.nanoseconds ++ "+00:00"

end MockData
