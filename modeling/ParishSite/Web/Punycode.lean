/-! Labels of host names in the letters of ASCII. The other characters of a label are written behind
its ASCII characters, in ascending order, as the distance from one insertion to the next. -/

namespace ParishSite.Web.Punycode

def digitChar (d : Nat) : Char := if d < 26 then Char.ofNat (97 + d) else Char.ofNat (22 + d)

def digitValue? (c : Char) : Option Nat :=
  if 'a' ≤ c ∧ c ≤ 'z' then some (c.toNat - 97)
  else if 'A' ≤ c ∧ c ≤ 'Z' then some (c.toNat - 65)
  else if '0' ≤ c ∧ c ≤ '9' then some (c.toNat - 22)
  else none

/-- The least digit at a place that another digit follows. -/
def threshold (place bias : Nat) : Nat := max 1 (min 26 (place - bias))

theorem threshold_bounds (place bias : Nat) :
    1 ≤ threshold place bias ∧ threshold place bias ≤ 26 := by
  unfold threshold
  omega

def spread (delta places : Nat) : Nat × Nat :=
  if 455 < delta then spread (delta / 35) (places + 36) else (delta, places)
termination_by delta
decreasing_by omega

/-- The bias after a distance, of which `handled` characters are written now. -/
def adapt (delta handled : Nat) (isFirst : Bool) : Nat :=
  let damped := if isFirst then delta / 700 else delta / 2
  let (rest, places) := spread (damped + damped / handled) 0
  places + 36 * rest / (rest + 38)

/-- A distance in digits, the last of which is below its threshold. -/
def encodeDistance (bias place distance : Nat) : List Char :=
  let t := threshold place bias
  if distance < t then [digitChar distance]
  else
    digitChar (t + (distance - t) % (36 - t)) ::
      encodeDistance bias (place + 36) ((distance - t) / (36 - t))
termination_by distance
decreasing_by
  have h := threshold_bounds place bias
  have := Nat.div_le_self (distance - threshold place bias) (36 - threshold place bias)
  omega

structure Encoding where
  out : List Char
  delta : Nat
  bias : Nat
  handled : Nat

/-- Goes over one character of the label while the characters with number `code` are inserted. -/
def scan (basic code : Nat) (e : Encoding) (c : Char) : Encoding :=
  if c.toNat < code then { e with delta := e.delta + 1 }
  else if c.toNat = code then
    { out := e.out ++ encodeDistance e.bias 36 e.delta
      delta := 0
      bias := adapt e.delta (e.handled + 1) (e.handled == basic)
      handled := e.handled + 1 }
  else e

/-- Inserts the characters of each number in turn; `next` is the least number not yet inserted. -/
def insertAll (label : List Char) (basic : Nat) : List Nat → Nat → Encoding → Encoding
  | [], _, e => e
  | code :: codes, next, e =>
    let e := { e with delta := e.delta + (code - next) * (e.handled + 1) }
    let e := label.foldl (scan basic code) e
    insertAll label basic codes (code + 1) { e with delta := e.delta + 1 }

private def insertNumber (n : Nat) : List Nat → List Nat
  | [] => [n]
  | m :: rest => if n < m then n :: m :: rest else if n = m then m :: rest else m :: insertNumber n rest

def encode (label : List Char) : List Char :=
  let ascii := label.filter fun c => c.toNat < 128
  let codes := label.foldl (fun known c => if c.toNat < 128 then known else insertNumber c.toNat known) []
  let e := insertAll label ascii.length codes 128 ⟨[], 0, 72, ascii.length⟩
  ascii ++ (if ascii.isEmpty then [] else ['-']) ++ e.out

def decodeDistance (bias : Nat) :
    List Char → Nat → Nat → Nat → Option (Nat × List Char)
  | [], _, _, _ => none
  | c :: rest, place, weight, sum =>
    match digitValue? c with
    | none => none
    | some d =>
      let sum := sum + d * weight
      let t := threshold place bias
      if sum > 4294967295 then none
      else if d < t then some (sum, rest)
      else decodeDistance bias rest (place + 36) (weight * (36 - t)) sum

/-- Inserts characters into a label; `fuel` bounds their number. -/
def insertDecoded (label : List Char) (code spot bias : Nat) (isFirst : Bool) :
    Nat → List Char → Option (List Char)
  | _, [] => some label
  | 0, _ :: _ => none
  | fuel + 1, s => do
    let (distance, rest) ← decodeDistance bias s 36 1 0
    let size := label.length + 1
    let total := spot + distance
    let code := code + total / size
    let spot := total % size
    if code < 0xd800 ∨ (0xdfff < code ∧ code < 0x110000) then
      insertDecoded (label.take spot ++ Char.ofNat code :: label.drop spot) code (spot + 1)
        (adapt distance size isFirst) false fuel rest
    else none

def decode? (s : List Char) : Option (List Char) :=
  let coded := (s.reverse.takeWhile (· ≠ '-')).reverse
  let ascii := (s.take (s.length - coded.length)).dropLast
  if ascii.all fun c => c.toNat < 128 then insertDecoded ascii 128 0 72 true coded.length coded
  else none

end ParishSite.Web.Punycode
