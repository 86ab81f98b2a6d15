/-! Days of the Gregorian calendar, carried back before its introduction. Days are counted from the
first of January 1970, and every day that a month has belongs to exactly one count. -/

namespace ParishSite.Time

structure Date where
  year : Int
  month : Nat
  day : Nat
deriving DecidableEq

namespace Date

def isLeapYear (year : Int) : Bool := year % 4 == 0 && (year % 100 != 0 || year % 400 == 0)

def daysInMonth (year : Int) (month : Nat) : Nat :=
  match month with
  | 2 => if isLeapYear year then 29 else 28
  | 4 | 6 | 9 | 11 => 30
  | _ => 31

def IsValid (d : Date) : Prop :=
  1 ≤ d.month ∧ d.month ≤ 12 ∧ 1 ≤ d.day ∧ d.day ≤ daysInMonth d.year d.month

instance (d : Date) : Decidable d.IsValid := by unfold IsValid; infer_instance

/-- The days before a year, counted from the first of January of year 1. -/
def daysBeforeYear (year : Int) : Int :=
  365 * (year - 1) + (year - 1) / 4 - (year - 1) / 100 + (year - 1) / 400

def daysBeforeMonth (year : Int) (month : Nat) : Nat :=
  let leapDay := if isLeapYear year then 1 else 0
  match month with
  | 0 | 1 => 0
  | 2 => 31
  | 3 => 59 + leapDay
  | 4 => 90 + leapDay
  | 5 => 120 + leapDay
  | 6 => 151 + leapDay
  | 7 => 181 + leapDay
  | 8 => 212 + leapDay
  | 9 => 243 + leapDay
  | 10 => 273 + leapDay
  | 11 => 304 + leapDay
  | _ => 334 + leapDay

/-- The days from the first of January of year 1 to the first of January 1970. -/
def epochDays : Int := 719162

def toDays (d : Date) : Int :=
  daysBeforeYear d.year + daysBeforeMonth d.year d.month + (d.day - 1 : Nat) - epochDays

/-- The year in which a day falls. The mean length of a year gives it or a neighbour of it. -/
def yearOf (sinceYearOne : Int) : Int :=
  let guess := 400 * sinceYearOne / 146097 + 1
  if sinceYearOne < daysBeforeYear guess then guess - 1
  else if daysBeforeYear (guess + 1) ≤ sinceYearOne then guess + 1
  else guess

/-- The month in which a day of a year falls, counting down from `month`. -/
def monthOf (year : Int) (dayOfYear : Nat) : Nat → Nat
  | 0 => 0
  | month + 1 =>
    if daysBeforeMonth year (month + 1) ≤ dayOfYear then month + 1 else monthOf year dayOfYear month

def ofDays (days : Int) : Date :=
  let sinceYearOne := days + epochDays
  let year := yearOf sinceYearOne
  let dayOfYear := (sinceYearOne - daysBeforeYear year).toNat
  let month := monthOf year dayOfYear 12
  ⟨year, month, dayOfYear - daysBeforeMonth year month + 1⟩

end Date
end ParishSite.Time
