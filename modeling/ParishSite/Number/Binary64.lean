/-! Binary floating-point numbers of 64 bits, in exact arithmetic. A number is a mantissa below
`2 ^ 53` times a power of two, and every rounding goes to the nearest number, ties to the even one. -/

namespace ParishSite.Number

/-- The finite number `mantissa * 2 ^ exponent`, or its negation. The mantissa is at least `2 ^ 52`
unless the exponent is the smallest one, `-1074`. -/
structure Binary64 where
  negative : Bool
  mantissa : Nat
  exponent : Int
deriving DecidableEq

namespace Binary64

def zero (negative : Bool) : Binary64 := ⟨negative, 0, -1074⟩

def isZero (x : Binary64) : Bool := x.mantissa == 0

/-- The quotient rounded to the nearest integer, ties to the even one. -/
def roundDiv (num den : Nat) : Nat :=
  let q := num / den
  let r := num % den
  if 2 * r > den || (2 * r == den && q % 2 == 1) then q + 1 else q

private def scaled (num den : Nat) (e : Int) : Nat × Nat :=
  if 0 ≤ e then (num, den * Nat.pow 2 e.toNat) else (num * Nat.pow 2 (-e).toNat, den)

/-- The number nearest to `num / den * 2 ^ shift`; `none` when it is beyond the largest one. -/
def ofRatio? (negative : Bool) (num den : Nat) (shift : Int) : Option Binary64 :=
  if num == 0 then some (zero negative)
  else
    let guess : Int := (Nat.log2 num : Int) - (Nat.log2 den : Int) - 53
    let quotient (e : Int) : Nat := let (n, d) := scaled num den e; n / d
    let fitting := if quotient guess < Nat.pow 2 53 then guess else guess + 1
    let e := max fitting (-1074 - shift)
    let (n, d) := scaled num den e
    let m := roundDiv n d
    let (m, e) := if m == Nat.pow 2 53 then (Nat.pow 2 52, e + 1) else (m, e)
    if e + shift > 971 then none else some ⟨negative, m, e + shift⟩

/-- A fraction that is a number of doublings away from one has a logarithm that far away. -/
private theorem log2_add_le {num den k : Nat} (nonzero : num ≠ 0) (far : num * Nat.pow 2 k ≤ den) :
    Nat.log2 num + k ≤ Nat.log2 den := by
  have low : 2 ^ Nat.log2 num ≤ num := Nat.log2_self_le nonzero
  have power : 2 ^ (Nat.log2 num + k) ≤ den := by
    rw [Nat.pow_add]
    exact Nat.le_trans (Nat.mul_le_mul_right _ low) far
  have positive : 0 < 2 ^ (Nat.log2 num + k) := Nat.pow_pos (by decide)
  exact (Nat.le_log2 (Nat.ne_zero_of_lt (Nat.lt_of_lt_of_le positive power))).mpr power

private def rounded? (negative : Bool) (num den : Nat) (shift e : Int) : Option Binary64 :=
  let (n, d) := scaled num den e
  let m := roundDiv n d
  let (m, e) := if m == Nat.pow 2 53 then (Nat.pow 2 52, e + 1) else (m, e)
  if e + shift > 971 then none else some ⟨negative, m, e + shift⟩

private theorem ofRatio?_eq (negative : Bool) {num : Nat} (nonzero : num ≠ 0) (den : Nat) (shift : Int) :
    let guess : Int := (Nat.log2 num : Int) - (Nat.log2 den : Int) - 53
    ∃ fitting, (guess ≤ fitting ∧ fitting ≤ guess + 1) ∧
      ofRatio? negative num den shift = rounded? negative num den shift (max fitting (-1074 - shift)) := by
  intro guess
  unfold ofRatio?
  rw [if_neg (by simpa using nonzero)]
  refine ⟨_, ?_, rfl⟩
  split <;> omega

/-- A fraction that is too large for the largest number. -/
theorem ofRatio?_none (negative : Bool) {num den k : Nat} (nonzero : den ≠ 0) (far : 1025 ≤ k)
    (large : den * Nat.pow 2 k ≤ num) : ofRatio? negative num den 0 = none := by
  have logs := log2_add_le nonzero large
  have positive : num ≠ 0 := by
    rintro rfl
    rw [Nat.log2_zero] at logs
    omega
  obtain ⟨fitting, ⟨low, -⟩, rounded⟩ := ofRatio?_eq negative positive den 0
  rw [rounded, rounded?]
  dsimp only
  refine if_pos ?_
  split <;> dsimp only <;> omega

theorem roundDiv_small {num den : Nat} (small : 2 * num < den) : roundDiv num den = 0 := by
  have less : num < den := by omega
  have down : ¬ (2 * num > den || (2 * num == den && 0 % 2 == 1)) = true := by
    simp
    omega
  simp only [roundDiv, Nat.div_eq_of_lt less, Nat.mod_eq_of_lt less, if_neg down]

private theorem scaled_neg (num den : Nat) {n : Nat} (positive : 0 < n) :
    scaled num den (-n) = (num * Nat.pow 2 n, den) := by
  rw [scaled, if_neg (by omega), Int.neg_neg, Int.toNat_natCast]

/-- A fraction that is too small for the smallest number but zero. -/
theorem ofRatio?_zero (negative : Bool) {num den k : Nat} (nonzero : den ≠ 0) (far : 1076 ≤ k)
    (small : num * Nat.pow 2 k ≤ den) : ofRatio? negative num den 0 = some (zero negative) := by
  by_cases nothing : num = 0
  · subst nothing
    rfl
  have logs := log2_add_le nothing small
  obtain ⟨fitting, ⟨-, high⟩, rounded⟩ := ofRatio?_eq negative nothing den 0
  -- the exponent has a name, so that nobody works its power out
  obtain ⟨least, value⟩ : ∃ n : Nat, n = 1074 := ⟨_, rfl⟩
  have smallest : max fitting (-1074 - 0) = -(least : Int) := by omega
  have down : roundDiv (num * Nat.pow 2 least) den = 0 := by
    refine roundDiv_small ?_
    have fourfold : num * Nat.pow 2 least * 4 ≤ den := by
      calc num * 2 ^ least * 4 = num * 2 ^ (least + 2) := by rw [Nat.pow_add, Nat.mul_assoc]
        _ ≤ num * 2 ^ k := Nat.mul_le_mul_left _ (Nat.pow_le_pow_right (by decide) (by omega))
        _ ≤ den := small
    omega
  rw [rounded, smallest, rounded?, scaled_neg num den (by omega)]
  dsimp only
  rw [down]
  subst value
  rfl

/-- The number nearest to `significand * 10 ^ exponent`; `none` when it is beyond the largest one. -/
def ofDecimal? (negative : Bool) (significand : Nat) (exponent : Int) : Option Binary64 :=
  if 0 ≤ exponent then ofRatio? negative (significand * Nat.pow 10 exponent.toNat) 1 0
  else ofRatio? negative significand (Nat.pow 10 (-exponent).toNat) 0

theorem ofDecimal?_nothing (negative : Bool) (exponent : Int) :
    ofDecimal? negative 0 exponent = some (zero negative) := by
  rw [ofDecimal?, Nat.zero_mul]
  split <;> rfl

private theorem doublings_le (n : Nat) : Nat.pow 2 (3 * n) ≤ Nat.pow 10 n := by
  change 2 ^ (3 * n) ≤ 10 ^ n
  rw [Nat.pow_mul]
  exact Nat.pow_le_pow_left (by decide) n

/-- A number with more than 400 digits before its point is too large. -/
theorem ofDecimal?_none (negative : Bool) {significand places n : Nat} {exponent : Int} (far : 400 ≤ n)
    (least : Nat.pow 10 places ≤ significand) (large : n ≤ places + exponent) :
    ofDecimal? negative significand exponent = none := by
  rw [ofDecimal?]
  split
  · refine ofRatio?_none (k := 3 * n) negative (by decide) (by omega) ?_
    calc 1 * 2 ^ (3 * n) = 2 ^ (3 * n) := Nat.one_mul _
      _ ≤ 10 ^ n := doublings_le n
      _ ≤ 10 ^ (places + exponent.toNat) := Nat.pow_le_pow_right (by decide) (by omega)
      _ = 10 ^ places * 10 ^ exponent.toNat := Nat.pow_add ..
      _ ≤ significand * Nat.pow 10 exponent.toNat := Nat.mul_le_mul_right _ least
  · refine ofRatio?_none (k := 3 * n) negative (Nat.ne_of_gt (Nat.pow_pos (by decide))) (by omega) ?_
    calc 10 ^ (-exponent).toNat * 2 ^ (3 * n)
        ≤ 10 ^ (-exponent).toNat * 10 ^ n := Nat.mul_le_mul_left _ (doublings_le n)
      _ = 10 ^ ((-exponent).toNat + n) := (Nat.pow_add ..).symm
      _ ≤ 10 ^ places := Nat.pow_le_pow_right (by decide) (by omega)
      _ ≤ significand := least

/-- A number that begins more than 400 places behind its point is too small. -/
theorem ofDecimal?_zero (negative : Bool) {significand places n : Nat} {exponent : Int} (far : 400 ≤ n)
    (most : significand ≤ Nat.pow 10 places) (small : places + exponent ≤ -n) :
    ofDecimal? negative significand exponent = some (zero negative) := by
  rw [ofDecimal?, if_neg (by omega)]
  refine ofRatio?_zero (k := 3 * n) negative (Nat.ne_of_gt (Nat.pow_pos (by decide))) (by omega) ?_
  calc significand * 2 ^ (3 * n) ≤ 10 ^ places * 10 ^ n := Nat.mul_le_mul most (doublings_le n)
    _ = 10 ^ (places + n) := (Nat.pow_add ..).symm
    _ ≤ 10 ^ (-exponent).toNat := Nat.pow_le_pow_right (by decide) (by omega)

private def times? (x y : Binary64) : Option Binary64 :=
  ofRatio? x.negative (x.mantissa * y.mantissa) 1 (x.exponent + y.exponent)

private def over? (x y : Binary64) : Option Binary64 :=
  if y.isZero then none else ofRatio? x.negative x.mantissa y.mantissa (x.exponent - y.exponent)

private def powerOfTen? (n : Nat) : Option Binary64 := ofDecimal? false 1 n

/-- Scales by a power of ten no further than the largest one there is, rounding once for each
factor; `steps` bounds the factors. -/
private def scaleByTen? (x : Binary64) (exponent : Int) : Nat → Option Binary64
  | 0 => some (zero x.negative)
  | steps + 1 =>
    if x.isZero then some x
    else if exponent > 308 then none
    else if 0 ≤ exponent then (powerOfTen? exponent.toNat).bind x.times?
    else if exponent ≥ -308 then (powerOfTen? (-exponent).toNat).bind x.over?
    else
      match (powerOfTen? 308).bind x.over? with
      | some y => scaleByTen? y (exponent + 308) steps
      | none => none

/-- The number that is read from a significand of at most 64 bits and a power of ten: the
significand is rounded first, and then the result of scaling it. -/
def ofParts? (negative : Bool) (significand : Nat) (exponent : Int) : Option Binary64 :=
  (ofRatio? negative significand 1 0).bind fun x => scaleByTen? x exponent 8

/-- The nearest integer, halves away from zero. -/
def round (x : Binary64) : Int :=
  let size :=
    if 0 ≤ x.exponent then x.mantissa * Nat.pow 2 x.exponent.toNat
    else (2 * x.mantissa + Nat.pow 2 (-x.exponent).toNat) / Nat.pow 2 ((-x.exponent).toNat + 1)
  if x.negative then -(size : Int) else size

end Binary64
end ParishSite.Number
