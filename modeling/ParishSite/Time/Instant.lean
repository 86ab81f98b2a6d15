import ParishSite.Time.Date

/-! Instants in universal time, to the nanosecond. A leap second is kept as the last second of its
minute with a thousand million nanoseconds or more, so an instant says exactly what was written. -/

namespace ParishSite.Time

/-- Lengths of time, in nanoseconds. -/
abbrev Duration := Int

namespace Duration

def ofMilliseconds (n : Int) : Duration := n * 1000000

def ofSeconds (n : Int) : Duration := n * 1000000000

end Duration

/-- The first and the last second of the years that can be told apart. -/
def firstSecond : Int := -8334601228800
def lastSecond : Int := 8210266876799

structure Instant where
  /-- Seconds since the first of January 1970. -/
  seconds : Int
  nanos : Nat
  inRange : firstSecond ≤ seconds ∧ seconds ≤ lastSecond
  inSecond : nanos < 1000000000 ∨ (nanos < 2000000000 ∧ seconds % 60 = 59)
deriving DecidableEq

namespace Instant

def of? (seconds : Int) (nanos : Nat) : Option Instant :=
  if h : (firstSecond ≤ seconds ∧ seconds ≤ lastSecond) ∧
      (nanos < 1000000000 ∨ (nanos < 2000000000 ∧ seconds % 60 = 59)) then
    some ⟨seconds, nanos, h.1, h.2⟩
  else none

def isLeap (t : Instant) : Bool := 1000000000 ≤ t.nanos

def secondOfDay (t : Instant) : Int := t.seconds % 86400

def isBefore (a b : Instant) : Bool :=
  a.seconds < b.seconds || (a.seconds == b.seconds && a.nanos < b.nanos)

/-- The time from one instant to another. A leap second counts as a second of its own on the day it
ends, seen from a later or earlier second of the clock. -/
def since (later earlier : Instant) : Duration :=
  let clock := later.secondOfDay - earlier.secondOfDay
  let leap : Int :=
    if 0 < clock && earlier.isLeap then 1 else if clock < 0 && later.isLeap then -1 else 0
  Duration.ofSeconds (later.seconds - earlier.seconds + leap) + (later.nanos - earlier.nanos : Int)

/-- The instant a number of nanoseconds after a second, outside leap seconds. -/
def counted? (seconds nanos : Int) : Option Instant :=
  of? (seconds + nanos / 1000000000) (nanos % 1000000000).toNat

/-- The instant a length of time later, if it is in range. A leap second is left at its end or at its
start. -/
def plus? (t : Instant) (d : Duration) : Option Instant :=
  let whole : Int := d.tdiv 1000000000
  let part : Int := d.tmod 1000000000
  if t.isLeap then
    if 0 < whole || (0 < part && 2000000000 - part ≤ (t.nanos : Int)) then
      counted? (t.seconds + whole) (t.nanos - 1000000000 + part)
    else if whole < 0 then counted? (t.seconds + 1 + whole) (t.nanos - 1000000000 + part)
    else of? t.seconds (t.nanos + part).toNat
  else counted? (t.seconds + whole) (t.nanos + part)

def addMilliseconds? (t : Instant) (n : Int) : Option Instant := t.plus? (Duration.ofMilliseconds n)

def date (t : Instant) : Date := Date.ofDays (t.seconds / 86400)

def hour (t : Instant) : Nat := (t.secondOfDay / 3600).toNat

def minute (t : Instant) : Nat := (t.secondOfDay / 60 % 60).toNat

/-- The second of the minute; a leap second is the sixtieth. -/
def second (t : Instant) : Nat := (t.secondOfDay % 60).toNat + if t.isLeap then 1 else 0

def fraction (t : Instant) : Nat := t.nanos % 1000000000

end Instant
end ParishSite.Time
