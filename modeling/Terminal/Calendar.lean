import Terminal.Clock

namespace Terminal

structure Moment where
  year : Int
  month : Nat
  day : Nat
  hour : Nat
  minute : Nat
  second : Nat
  weekday : Nat
  deriving DecidableEq, Repr

namespace Moment

/-- Year, month and day of a day number. Years are counted from March, so that the leap day comes last, in
cycles of 400 years. -/
def civil (days : Int) : Int × Nat × Nat :=
  let z := days + 719468
  let cycle := z / 146097
  let doe := (z % 146097).toNat
  let yoe := (doe - doe / 1460 + doe / 36524 - doe / 146096) / 365
  let doy := doe - (365 * yoe + yoe / 4 - yoe / 100)
  let mp := (5 * doy + 2) / 153
  let day := doy - (153 * mp + 2) / 5 + 1
  let month := if mp < 10 then mp + 3 else mp - 9
  (yoe + cycle * 400 + (if month ≤ 2 then 1 else 0), month, day)

def ofSeconds (seconds : Int) : Moment :=
  let days := seconds / 86400
  let rest := (seconds % 86400).toNat
  let (year, month, day) := civil days
  ⟨year, month, day, rest / 3600, rest / 60 % 60, rest % 60, ((days + 4) % 7).toNat⟩

def farthestSecond : Int := 0x8000000000000000

def isCountedYear (year : Int) : Bool := -0x80000000 ≤ year - 1900 && year - 1900 < 0x80000000

def shownYear (year : Int) : Int := year.bmod 0x100000000

/-- The moment at a clock reading. It and the moment a day before it must lie in the years 1 to 9999. -/
def ofMillis (ms : Int) : Except Fault Moment := do
  let seconds := (← Clock.seconds ms).floor
  if seconds < -farthestSecond ∨ farthestSecond < seconds then throw .clockOutOfRange
  let m := ofSeconds seconds
  if !isCountedYear m.year then throw .dateTooLarge
  if m.year < 1 ∨ 9999 < m.year then throw (.yearOutOfRange (shownYear m.year))
  let before := ofSeconds (seconds - 86400)
  if before.year < 1 then throw (.yearOutOfRange before.year)
  return m

def two (n : Nat) : String := if n < 10 then "0" ++ toString n else toString n

def clock (m : Moment) : String := two m.hour ++ ":" ++ two m.minute ++ ":" ++ two m.second

def stampText (m : Moment) : String :=
  toString m.year ++ "-" ++ two m.month ++ "-" ++ two m.day ++ " " ++ m.clock

def weekdays : List String := ["Sun", "Mon", "Tue", "Wed", "Thu", "Fri", "Sat"]

def months : List String :=
  ["Jan", "Feb", "Mar", "Apr", "May", "Jun", "Jul", "Aug", "Sep", "Oct", "Nov", "Dec"]

def longText (m : Moment) : String :=
  weekdays.getD m.weekday "" ++ " " ++ months.getD (m.month - 1) "" ++ " " ++ two m.day ++ " " ++
    toString m.year ++ " " ++ m.clock ++ " GMT+0000 (UTC)"

end Moment

def stampText (ms : Int) : Except Fault String := (Moment.ofMillis ms).map Moment.stampText

end Terminal
