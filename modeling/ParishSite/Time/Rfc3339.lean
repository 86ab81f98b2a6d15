import ParishSite.Time.Instant
import ParishSite.Text.Blank
import ParishSite.Text.Utf8

/-! Instants as text. Writing follows RFC 3339 with the fewest fraction digits in steps of three, and
a sign for years beyond four digits. Reading is more lenient: white space may stand before numbers and
around separators, and numbers need no leading zeros. -/

namespace ParishSite.Time

inductive TimeFault
  | tooShort
  | unexpected
  | outOfRange
  | tooLong
  /-- There is such a time where it was written, but no such instant in universal time. -/
  | impossible
deriving DecidableEq

namespace TimeFault

def message : TimeFault → String
  | tooShort => "premature end of input"
  | unexpected => "input contains invalid characters"
  | outOfRange => "input is out of range"
  | tooLong => "trailing input"
  | impossible => "no possible date and time matching input"

end TimeFault

namespace Rfc3339

/-- A number written with at least `width` digits. -/
def padded (width n : Nat) : List Char :=
  let ds := Nat.toDigits 10 n
  List.replicate (width - ds.length) '0' ++ ds

/-- Four digits, or a sign and at least four digits. -/
def yearText (year : Int) : List Char :=
  if 0 ≤ year ∧ year ≤ 9999 then padded 4 year.toNat
  else (if year < 0 then '-' else '+') :: padded 4 year.natAbs

/-- The fewest of three, six or nine digits that give the part of a second; nothing for none. -/
def fractionText (nanos : Nat) : List Char :=
  if nanos = 0 then []
  else if nanos % 1000000 = 0 then '.' :: padded 3 (nanos / 1000000)
  else if nanos % 1000 = 0 then '.' :: padded 6 (nanos / 1000)
  else '.' :: padded 9 nanos

def dayText (d : Date) : List Char :=
  yearText d.year ++ '-' :: padded 2 d.month ++ '-' :: padded 2 d.day

def clockText (t : Instant) : List Char :=
  padded 2 t.hour ++ ':' :: padded 2 t.minute ++ ':' :: padded 2 t.second ++
    fractionText t.fraction

/-- The instant in universal time, followed by the mark of that zone. -/
def write (zone : String) (t : Instant) : String :=
  String.ofList (dayText t.date ++ 'T' :: clockText t ++ zone.toList)

def writeZ : Instant → String := write "Z"

def writeOffset : Instant → String := write "+00:00"

/-- The instant without separators, to the second, as calendars write it. -/
def writeCompact (t : Instant) : String :=
  let d := t.date
  String.ofList (yearText d.year ++ padded 2 d.month ++ padded 2 d.day ++
    'T' :: padded 2 t.hour ++ padded 2 t.minute ++ padded 2 t.second ++ ['Z'])

/-- Reading goes from left to right; the first thing wrong is the fault. -/
abbrev Reader (α : Type) := List Char → Except TimeFault (α × List Char)

def digitOf? (c : Char) : Option Nat :=
  if '0' ≤ c ∧ c ≤ '9' then some (c.toNat - 48) else none

def digits (most : Nat) (value : Nat) : List Char → Nat × List Char
  | [] => (value, [])
  | c :: rest =>
    match most, digitOf? c with
    | most + 1, some d => digits most (value * 10 + d) rest
    | _, _ => (value, c :: rest)

def number (most : Nat) : Reader Nat
  | [] => .error .tooShort
  | c :: rest =>
    if (digitOf? c).isSome then .ok (digits most 0 (c :: rest)) else .error .unexpected

def literal (c : Char) : Reader Unit
  | [] => .error .tooShort
  | d :: rest => if d = c then .ok ((), rest) else .error .unexpected

def separator (c : Char) : Reader Unit := fun s => literal c (Text.trimStart s)

/-- A number of at most two digits between two bounds. -/
def field (low high : Nat) : Reader Nat := fun s => do
  let (n, rest) ← number 2 (Text.trimStart s)
  if low ≤ n ∧ n ≤ high then .ok (n, rest) else .error .outOfRange

/-- A year of at most four digits, or of any number of digits after a sign. -/
def year : Reader Int := fun s => do
  let signed (sign : Int) (rest : List Char) : Except TimeFault (Int × List Char) := do
    let (n, rest) ← number rest.length rest
    let y := sign * n
    if -2147483648 ≤ y ∧ y ≤ 2147483647 then .ok (y, rest) else .error .outOfRange
  match Text.trimStart s with
  | '-' :: rest => signed (-1) rest
  | '+' :: rest => signed 1 rest
  | s =>
    let (n, rest) ← number 4 s
    .ok ((n : Int), rest)

/-- The part of a second after a point, in nanoseconds; digits after the ninth are ignored. -/
def fraction : Reader Nat
  | '.' :: s => do
    let (n, rest) ← number 9 s
    let taken := s.length - rest.length
    .ok (n * Nat.pow 10 (9 - taken), rest.dropWhile fun c => (digitOf? c).isSome)
  | s => .ok (0, s)

private def isColonOrBlank (c : Char) : Bool := c = ':' || Text.isBlank c

/-- Two digits. Where they are missing the fault tells whether two more bytes are there at all. -/
private def twoDigits (s : List Char) : Except TimeFault (Nat × Nat × List Char) :=
  match s with
  | a :: b :: rest =>
    match digitOf? a, digitOf? b with
    | some a, some b => .ok (a, b, rest)
    | _, _ => .error .unexpected
  | few => if Text.Utf8.size few < 2 then .error .tooShort else .error .unexpected

private def offsetAfterSign (sign : Int) : Reader Int := fun s => do
  let (h₁, h₂, s) ← twoDigits s
  let (m₁, m₂, s) ← twoDigits (s.dropWhile isColonOrBlank)
  if m₁ < 6 then .ok (sign * ((h₁ * 10 + h₂ : Nat) * 3600 + (m₁ * 10 + m₂ : Nat) * 60), s)
  else .error .outOfRange

private def isWordUtc (a b c : Char) : Bool :=
  a.toLower = 'u' && b.toLower = 't' && c.toLower = 'c'

/-- The seconds by which a zone is ahead of universal time. -/
def zone (s : List Char) : Except TimeFault (Int × List Char) :=
  let signed : Except TimeFault (Int × List Char) :=
    match s with
    | [] => .error .tooShort
    | c :: rest =>
      if c = 'Z' ∨ c = 'z' then .ok (0, rest)
      else if c = '+' then offsetAfterSign 1 rest
      else if c = '-' ∨ c.toNat = 0x2212 then offsetAfterSign (-1) rest
      else .error .unexpected
  match s with
  | a :: b :: c :: rest => if isWordUtc a b c then .ok (0, rest) else signed
  | _ => signed

def dayMark : Reader Unit
  | [] => .error .tooShort
  | c :: rest => if c = 'T' ∨ c = 't' ∨ c = ' ' then .ok ((), rest) else .error .unexpected

def readChars (s : List Char) : Except TimeFault Instant := do
  let (y, s) ← year s
  let ((), s) ← separator '-' s
  let (m, s) ← field 1 12 s
  let ((), s) ← separator '-' s
  let (d, s) ← field 1 31 s
  let ((), s) ← dayMark s
  let (h, s) ← field 0 23 s
  let ((), s) ← separator ':' s
  let (min, s) ← field 0 59 s
  let ((), s) ← separator ':' s
  let (sec, s) ← field 0 60 s
  let (nanos, s) ← fraction s
  let (offset, s) ← zone (Text.trimStart s)
  if !(Text.trimStart s).isEmpty then .error .tooLong
  else
    let date : Date := ⟨y, m, d⟩
    let clock : Int := h * 3600 + min * 60 + (if sec = 60 then 59 else sec : Nat)
    let nanos := if sec = 60 then nanos + 1000000000 else nanos
    let here := date.toDays * 86400 + clock
    if ¬ date.IsValid ∨ here < firstSecond ∨ lastSecond < here ∨ 86400 ≤ offset.natAbs then
      .error .outOfRange
    else
      match Instant.of? (here - offset) nanos with
      | some t => .ok t
      | none => .error .impossible

def read (s : String) : Except TimeFault Instant := readChars s.toList

end Rfc3339
end ParishSite.Time
