import ParishSite.Number.Binary64

/-! The fewest decimal digits that read back as a given binary number, and of those the nearest. For
each count of digits only the two neighbours on that decimal grid have to be tried. -/

namespace ParishSite.Number

/-- The decimal number `digits * 10 ^ exponent`. -/
structure Scientific where
  digits : Nat
  exponent : Int
deriving DecidableEq

namespace Scientific

def normalized (digits : Nat) (exponent : Int) : Nat → Scientific
  | 0 => ⟨digits, exponent⟩
  | fuel + 1 =>
    if digits != 0 && digits % 10 == 0 then normalized (digits / 10) (exponent + 1) fuel
    else ⟨digits, exponent⟩

end Scientific

namespace Binary64

/-- The value and the ends of the interval of reals that round to it, as multiples of a quarter of
the last place. -/
structure Interval where
  low : Nat
  value : Nat
  high : Nat
  endsIncluded : Bool

def interval (x : Binary64) : Interval :=
  let m := x.mantissa
  let below := if m == Nat.pow 2 52 && x.exponent > -1074 then 1 else 2
  ⟨4 * m - below, 4 * m, 4 * m + 2, m % 2 == 0⟩

/-- The exponent of the leading decimal digit of `num / den`, counted down from a start above it. -/
private def leadingExponent (num den : Nat) (e : Int) : Nat → Int
  | 0 => e
  | fuel + 1 =>
    let reached :=
      if 0 ≤ e then den * Nat.pow 10 e.toNat ≤ num else den ≤ num * Nat.pow 10 (-e).toNat
    if reached then e else leadingExponent num den (e - 1) fuel

/-- The decimal on the grid of step `10 ^ exponent` that reads back and is nearest, if there is one. -/
private def onGrid? (i : Interval) (unitNum unitDen : Nat) (exponent : Int) : Option Nat :=
  let stepNum := if 0 ≤ exponent then Nat.pow 10 exponent.toNat else 1
  let stepDen := if 0 ≤ exponent then 1 else Nat.pow 10 (-exponent).toNat
  -- all quantities below are over the common denominator `unitDen * stepDen`
  let step := stepNum * unitDen
  let place (quarters : Nat) := quarters * unitNum * stepDen
  let k := place i.value / step
  let inside (n : Nat) :=
    let spot := n * step
    if i.endsIncluded then place i.low ≤ spot && spot ≤ place i.high
    else place i.low < spot && spot < place i.high
  let below := place i.value - k * step
  let above := (k + 1) * step - place i.value
  if inside k && inside (k + 1) then
    some (if below < above || (below == above && k % 2 == 0) then k else k + 1)
  else if inside k then some k
  else if inside (k + 1) then some (k + 1)
  else none

private def firstGrid (i : Interval) (unitNum unitDen : Nat) (lead : Int) (count : Nat) :
    Nat → Scientific
  | 0 => ⟨0, 0⟩
  | fuel + 1 =>
    let exponent := lead + 1 - count
    match onGrid? i unitNum unitDen exponent with
    | some digits => Scientific.normalized digits exponent 20
    | none => firstGrid i unitNum unitDen lead (count + 1) fuel

/-- The shortest decimal that reads back as the number without its sign. -/
def shortest (x : Binary64) : Scientific :=
  if x.isZero then ⟨0, 0⟩
  else
    let quarter := x.exponent - 2
    let unitNum := if 0 ≤ quarter then Nat.pow 2 quarter.toNat else 1
    let unitDen := if 0 ≤ quarter then 1 else Nat.pow 2 (-quarter).toNat
    let i := x.interval
    let lead := leadingExponent (i.value * unitNum) unitDen 309 640
    firstGrid i unitNum unitDen lead 1 18

end Binary64
end ParishSite.Number
