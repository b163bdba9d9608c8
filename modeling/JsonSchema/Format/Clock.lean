import JsonSchema.Regex.Matching
import JsonSchema.Regex.Parser

/-!
# Dates and times

A date is written in ten characters and has to exist in the calendar.  A time may have fractions of a
second and a zone; a leap second is one minute before midnight.  A date-time is both, with the zone.
-/

set_option autoImplicit false

namespace JsonSchema.Clock

/-- The value of a run of ASCII digits. -/
def digits? (cs : List Char) : Option Nat :=
  if cs.all Char.isDigit then some (natOfDigits cs) else none

def isLeapYear (year : Nat) : Bool := year % 4 == 0 && (year % 100 != 0 || year % 400 == 0)

/-- The days of a month; none for a month that is not one. -/
def daysIn? (year month : Nat) : Option Nat :=
  if [1, 3, 5, 7, 8, 10, 12].contains month then some 31
  else if [4, 6, 9, 11].contains month then some 30
  else if month = 2 then some (if isLeapYear year then 29 else 28)
  else none

/-- A year, a month and a day of a date. -/
def isDate (s : String) : Bool :=
  match s.toList with
  | [y1, y2, y3, y4, '-', m1, m2, '-', d1, d2] =>
    match digits? [y1, y2, y3, y4], digits? [m1, m2], digits? [d1, d2] with
    | some year, some month, some day =>
      match daysIn? year month with
      | some days => decide (1 ≤ day) && decide (day ≤ days)
      | none => false
    | _, _, _ => false
  | _ => false

/-- The form of a time whose zone may be missing. -/
def timePattern : Option Regex :=
  Regex.parse? "(?i)^(\\d\\d):(\\d\\d):(\\d\\d)(\\.\\d+)?(z|[+-]\\d\\d(?::?\\d\\d)?)?$"

/-- The form of a time with a zone. -/
def zonedTimePattern : Option Regex :=
  Regex.parse? "(?i)^(\\d\\d):(\\d\\d):(\\d\\d)(\\.\\d+)?(z|[+-]\\d\\d(?::?\\d\\d)?)$"

/-- Whether hours, minutes and seconds are those of a day.  Digits other than ASCII are none here. -/
def isClock (s : String) : Bool :=
  match s.toList with
  | h1 :: h2 :: _ :: m1 :: m2 :: _ :: s1 :: s2 :: _ =>
    match digits? [h1, h2], digits? [m1, m2], digits? [s1, s2] with
    | some hour, some minute, some second =>
      decide (hour ≤ 23) && decide (minute ≤ 59) &&
        (decide (second ≤ 59) || (hour == 23 && minute == 59 && second == 60))
    | _, _, _ => false
  | _ => false

def isTime (s : String) : Bool := timePattern.any (·.isMatch s) && isClock s

def isZonedTime (s : String) : Bool := zonedTimePattern.any (·.isMatch s) && isClock s

/-- A date and a time with its zone, with a `T` or a space between them. -/
def isDateTime (s : String) : Bool :=
  let isMark (c : Char) : Bool := c == 'T' || c == 't' || c == ' '
  match s.toList.dropWhile fun c => !isMark c with
  | [] => false
  | _ :: clock =>
    isDate (String.ofList (s.toList.takeWhile fun c => !isMark c)) && isZonedTime (String.ofList clock)

end JsonSchema.Clock
