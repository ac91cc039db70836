import EntityScaffold.Fault

/-!
Days and times of day, as events are stamped with them. A stamp shows the time of day only, but
there must be such a day.
-/
namespace EntityScaffold

structure Moment where
  year : Int
  month : Int
  day : Int
  hour : Int := 0
  minute : Int := 0
  second : Int := 0
  deriving DecidableEq, Repr

namespace Moment

def isLeapYear (year : Int) : Bool := year % 4 == 0 && (year % 100 != 0 || year % 400 == 0)

def monthLength (year month : Int) : Int :=
  if month = 2 then if isLeapYear year then 29 else 28
  else if [4, 6, 9, 11].contains month then 30
  else 31

def isBetween (low high n : Int) : Bool := decide (low ≤ n) && decide (n ≤ high)

def isValid (m : Moment) : Bool :=
  isBetween 1 9999 m.year && isBetween 1 12 m.month &&
    isBetween 1 (monthLength m.year m.month) m.day &&
    isBetween 0 23 m.hour && isBetween 0 59 m.minute && isBetween 0 59 m.second

def clockText (m : Moment) : String :=
  let two (n : Int) := if n < 10 then "0" ++ toString n else toString n
  two m.hour ++ ":" ++ two m.minute ++ ":" ++ two m.second

def stamped (clock message : String) : String := "[" ++ clock ++ "] " ++ message

def stamp (m : Moment) (message : String) : Except Fault String :=
  if m.isValid then .ok (stamped m.clockText message) else .error .wrongMoment

end Moment

end EntityScaffold
