/-
This file holds dates and times: a date, a time of day, or both with an optional offset
from universal time. They are written in one form each, with the fraction of a second
cut to nine places and without zeros at its end.
-/
import Intercept.Toml.Reader

namespace Intercept.Toml

/-- A day of the calendar. -/
structure Date where
  year : Nat
  month : Nat
  day : Nat
deriving DecidableEq

/-- A time of day. -/
structure Time where
  hour : Nat
  minute : Nat
  second : Nat
  nanosecond : Nat
deriving DecidableEq

/-- The distance from universal time. -/
inductive Offset where
  | zulu
  | minutes (count : Int)
deriving DecidableEq

/-- A date, a time, or both. -/
structure DateTime where
  date : Option Date := none
  time : Option Time := none
  offset : Option Offset := none
deriving DecidableEq

/-! ### Text -/

/-- A number in at least so many digits. -/
def padded (width number : Nat) : List Char :=
  Text.padZeros width (Text.decimalDigits number)

/-- The text of a date. -/
def Date.render (date : Date) : List Char :=
  padded 4 date.year ++ '-' :: padded 2 date.month ++ '-' :: padded 2 date.day

/-- The text of a time. -/
def Time.render (time : Time) : List Char :=
  let fraction :=
    if time.nanosecond = 0 then []
    else '.' :: ((padded 9 time.nanosecond).reverse.dropWhile (· = '0')).reverse
  padded 2 time.hour ++ ':' :: padded 2 time.minute ++ ':' :: padded 2 time.second ++ fraction

/-- The text of an offset. -/
def Offset.render : Offset → List Char
  | .zulu => ['Z']
  | .minutes count =>
    let distance := count.natAbs
    (if count < 0 then '-' else '+') :: padded 2 (distance / 60) ++ ':' :: padded 2 (distance % 60)

/-- The text of a date and time. -/
def DateTime.render (value : DateTime) : List Char :=
  let date := (value.date.map Date.render).getD []
  let time := (value.time.map Time.render).getD []
  let offset := (value.offset.map Offset.render).getD []
  if value.date.isSome ∧ value.time.isSome then date ++ 'T' :: time ++ offset
  else date ++ time ++ offset

/-! ### Reading -/

/-- The number of days of a month. -/
def daysIn (year month : Nat) : Nat :=
  let leap := year % 4 = 0 ∧ (year % 100 ≠ 0 ∨ year % 400 = 0)
  if month = 2 then (if leap then 29 else 28)
  else if [4, 6, 9, 11].contains month then 30
  else 31

/-- The greatest hour and the greatest offset that are read. -/
structure DayLimits where
  hour : Nat
  offsetHour : Nat
  offsetMinute : Nat
  offset : Nat

/-- The limits in a document. -/
def DayLimits.document : DayLimits := ⟨23, 23, 59, 1439⟩

/-- The limits in a text that stands for a date and time. They leave room for the end of a
day. -/
def DayLimits.text : DayLimits := ⟨24, 99, 99, 1440⟩

namespace Reader

/-- A number of so many digits. -/
def field (width : Nat) : Reader Nat := do
  return Text.number 10 (← fixedDigits 10 width)

/-- A number of so many digits up to a limit. -/
def fieldUpTo (width limit : Nat) : Reader Nat := do
  let number ← field width
  if number ≤ limit then return number else failure

/-- A date. -/
def date : Reader Date := do
  let year ← field 4
  expect ['-']
  let month ← field 2
  expect ['-']
  let day ← field 2
  if 1 ≤ month ∧ month ≤ 12 ∧ 1 ≤ day ∧ day ≤ daysIn year month then return ⟨year, month, day⟩
  else failure

/-- The fraction of a second in billionths; further places are dropped. -/
def fraction : Reader Nat := do
  expect ['.']
  let digits ← takeWhile (Text.isDigitIn 10)
  if digits.isEmpty then failure
  else return Text.number 10 ((digits ++ List.replicate 9 '0').take 9)

/-- A time. -/
def time (limits : DayLimits) : Reader Time := do
  let hour ← fieldUpTo 2 limits.hour
  expect [':']
  let minute ← fieldUpTo 2 59
  expect [':']
  let second ← fieldUpTo 2 60
  let nanosecond ← if (← peek) = some '.' then fraction else pure 0
  return ⟨hour, minute, second, nanosecond⟩

/-- An offset. -/
def offset (limits : DayLimits) : Reader Offset := do
  let mark ← next
  if mark = 'Z' ∨ mark = 'z' then return .zulu
  else if mark = '+' ∨ mark = '-' then
    let hours ← fieldUpTo 2 limits.offsetHour
    expect [':']
    let minutes ← fieldUpTo 2 limits.offsetMinute
    let distance := hours * 60 + minutes
    if limits.offset < distance then failure
    else if mark = '-' then return .minutes (-(distance : Int))
    else return .minutes distance
  else failure

/-- A date and time, with or without its parts. A blank after a date belongs to it only if a
time follows. -/
def dateTime (limits : DayLimits) : Reader DateTime :=
  (do
    let date ← date
    let following ← optional do
      discard (satisfying fun char => char = 'T' ∨ char = 't' ∨ char = ' ')
      let time ← time limits
      return (time, ← optional (offset limits))
    match following with
    | some (time, offset) => return { date := some date, time := some time, offset }
    | none => return { date := some date }) <|>
  (do return { time := some (← time limits) })

end Reader

/-- Reads a text that is a date and time throughout. -/
def DateTime.parse? (text : List Char) : Option DateTime := do
  let (value, rest) ← (Reader.dateTime .text).run text
  if rest.isEmpty then some value else none

end Intercept.Toml
