import ParishSite.Proofs.CalendarDays
import ParishSite.Proofs.TrimmedText

/-! An instant is read back from its text: the same second, the same part of a second, and a leap
second as a leap second, in every year that can be told apart. -/

namespace ParishSite.Time.Rfc3339

open Text (isBlank trimStart)

/-- No digit stands at the head of a text. -/
def Undigited : List Char → Prop
  | [] => True
  | c :: _ => c.isDigit = false

theorem digitOf?_digit {c : Char} (digit : c.isDigit = true) : digitOf? c = some (c.toNat - 48) := by
  have range : '0' ≤ c ∧ c ≤ '9' := by
    simpa [Char.isDigit, Char.le_def, UInt32.le_iff_toNat_le] using digit
  rw [digitOf?, if_pos range]

theorem digitOf?_other {c : Char} (other : c.isDigit = false) : digitOf? c = none := by
  have range : ¬ ('0' ≤ c ∧ c ≤ '9') := by
    simpa [Char.isDigit, Char.le_def, UInt32.le_iff_toNat_le] using other
  rw [digitOf?, if_neg range]

theorem digits_undigited (most value : Nat) {rest : List Char} (stop : Undigited rest) :
    digits most value rest = (value, rest) := by
  cases rest with
  | nil => rw [digits]
  | cons c rest => cases most <;> simp [digits, digitOf?_other stop]

/-- Digits are taken until no more may be or no more are there. -/
theorem digits_append {ds rest : List Char} (all : ∀ c ∈ ds, c.isDigit = true) {most : Nat}
    (fit : ds.length ≤ most) (stop : ds.length = most ∨ Undigited rest) (value : Nat) :
    digits most value (ds ++ rest) = (Nat.ofDigitChars 10 ds value, rest) := by
  induction ds generalizing most value with
  | nil =>
    rcases stop with full | stop
    · subst full
      cases rest <;> simp [digits]
    · exact digits_undigited most value stop
  | cons d ds ih =>
    cases most with
    | zero => exact absurd fit (Nat.not_succ_le_zero _)
    | succ most =>
      have later := ih (fun c member => all c (List.mem_cons_of_mem d member))
        (Nat.le_of_succ_le_succ fit) (stop.imp_left Nat.succ.inj) (value * 10 + (d.toNat - 48))
      rw [List.cons_append, digits, later, Nat.ofDigitChars_cons, Nat.mul_comm 10]
      · rfl
      · exact digitOf?_digit (all d List.mem_cons_self)

theorem number_append {ds : List Char} (some : ds ≠ []) (all : ∀ c ∈ ds, c.isDigit = true)
    (rest : List Char) {most : Nat} (fit : ds.length ≤ most)
    (stop : ds.length = most ∨ Undigited rest) :
    number most (ds ++ rest) = .ok (Nat.ofDigitChars 10 ds 0, rest) := by
  have read := digits_append all fit stop 0
  cases ds with
  | nil => exact absurd rfl some
  | cons d ds =>
    rw [List.cons_append] at read ⊢
    rw [number, digitOf?_digit (all d List.mem_cons_self), Option.isSome_some, if_pos rfl, read]

theorem padded_digits (width n : Nat) : ∀ c ∈ padded width n, c.isDigit = true := by
  intro c member
  rcases List.mem_append.mp member with zero | digit
  · rw [List.eq_of_mem_replicate zero]
    rfl
  · exact Nat.isDigit_of_mem_toDigits (by decide) (by decide) digit

theorem padded_ne_nil (width n : Nat) : padded width n ≠ [] :=
  List.append_ne_nil_of_right_ne_nil _ Nat.toDigits_ne_nil

theorem padded_value (width n : Nat) : Nat.ofDigitChars 10 (padded width n) 0 = n := by
  simp only [padded, Nat.ofDigitChars_append, Nat.ofDigitChars_replicate_zero, Nat.mul_zero]
  exact Nat.ofDigitChars_ten_toDigits

theorem padded_length {width n : Nat} (some : 0 < width) (small : n < 10 ^ width) :
    (padded width n).length = width := by
  have fit := (Nat.length_toDigits_le_iff (by decide) some).mpr small
  simp only [padded, List.length_append, List.length_replicate]
  omega

theorem number_padded {width n : Nat} (some : 0 < width) (small : n < 10 ^ width)
    (rest : List Char) : number width (padded width n ++ rest) = .ok (n, rest) := by
  have length := padded_length some small
  have read := number_append (padded_ne_nil width n) (padded_digits width n) rest
    (Nat.le_of_eq length) (.inl length)
  rwa [padded_value] at read

theorem trimStart_solid {c : Char} (solid : isBlank c = false) (rest : List Char) :
    trimStart (c :: rest) = c :: rest :=
  List.dropWhile_cons_of_neg (by rw [solid]; exact Bool.false_ne_true)

theorem trimStart_padded (width n : Nat) (rest : List Char) :
    trimStart (padded width n ++ rest) = padded width n ++ rest := by
  have solid := padded_unbroken width n
  cases whole : padded width n with
  | nil => exact absurd whole (padded_ne_nil width n)
  | cons c ds =>
    rw [whole] at solid
    exact trimStart_solid (solid c List.mem_cons_self) _

theorem separator_mark {c : Char} (solid : isBlank c = false) (rest : List Char) :
    separator c (c :: rest) = .ok ((), rest) := by
  rw [separator, trimStart_solid solid, literal, if_pos rfl]

theorem dayMark_mark (rest : List Char) : dayMark ('T' :: rest) = .ok ((), rest) := rfl

theorem field_padded {low high n : Nat} (least : low ≤ n) (most : n ≤ high) (small : n < 100)
    (rest : List Char) : field low high (padded 2 n ++ rest) = .ok (n, rest) := by
  have read := number_padded (show 0 < 2 by decide) small rest
  rw [field, trimStart_padded, read]
  exact if_pos ⟨least, most⟩

/-- A signed year may have any number of digits that a number of 32 bits allows. -/
private theorem signed_padded (n : Nat) (rest : List Char) :
    number (padded 4 n ++ '-' :: rest).length (padded 4 n ++ '-' :: rest) = .ok (n, '-' :: rest) := by
  have fit : (padded 4 n).length ≤ (padded 4 n ++ '-' :: rest).length := by simp
  have read := number_append (padded_ne_nil 4 n) (padded_digits 4 n) ('-' :: rest) fit (.inr rfl)
  rwa [padded_value] at read

theorem year_yearText {y : Int} (low : -2147483648 ≤ y) (high : y ≤ 2147483647) (rest : List Char) :
    year (yearText y ++ '-' :: rest) = .ok (y, '-' :: rest) := by
  unfold yearText
  split
  · next plain =>
    have read := number_padded (show 0 < 4 by decide) (show y.toNat < 10 ^ 4 by omega) ('-' :: rest)
    have whole : (y.toNat : Int) = y := Int.toNat_of_nonneg plain.1
    have first := padded_digits 4 y.toNat
    rw [year, trimStart_padded]
    cases text : padded 4 y.toNat with
    | nil => exact absurd text (padded_ne_nil 4 _)
    | cons c ds =>
      have digit := first c (by rw [text]; exact List.mem_cons_self)
      have minus : c ≠ '-' := by rintro rfl; cases digit
      have plus : c ≠ '+' := by rintro rfl; cases digit
      rw [text] at read
      simp only [List.cons_append] at read ⊢
      split
      · next sign => cases sign; exact absurd rfl minus
      · next sign => cases sign; exact absurd rfl plus
      · rw [read]
        change Except.ok ((y.toNat : Int), '-' :: rest) = _
        rw [whole]
  · next signed =>
    by_cases negative : y < 0
    · have value : -1 * (y.natAbs : Int) = y := by omega
      rw [if_pos negative, List.cons_append, year, trimStart_solid rfl]
      simp only [signed_padded, bind, Except.bind, value, low, high, and_self, if_true]
    · have value : 1 * (y.natAbs : Int) = y := by omega
      rw [if_neg negative, List.cons_append, year, trimStart_solid rfl]
      simp only [signed_padded, bind, Except.bind, value, low, high, and_self, if_true]

/-- The digits after the point stand for nanoseconds, as many of them as there are. -/
private theorem fraction_padded {width n : Nat} (some : 0 < width) (few : width ≤ 9)
    (small : n < 10 ^ width) :
    fraction ('.' :: padded width n ++ ['Z']) = .ok (n * 10 ^ (9 - width), ['Z']) := by
  have length := padded_length some small
  have read := number_append (padded_ne_nil width n) (padded_digits width n) ['Z']
    (show _ ≤ 9 by omega) (.inr rfl)
  rw [padded_value] at read
  have taken : (padded width n ++ ['Z']).length - ['Z'].length = width := by
    rw [List.length_append, length, Nat.add_sub_cancel]
  rw [List.cons_append, fraction, read]
  simp only [bind, Except.bind, taken]
  rfl

theorem fraction_fractionText {nanos : Nat} (small : nanos < 1000000000) :
    fraction (fractionText nanos ++ ['Z']) = .ok (nanos, ['Z']) := by
  unfold fractionText
  split
  · next none =>
    rw [none]
    rfl
  split
  · next millis =>
    rw [fraction_padded (by decide) (by decide) (by omega)]
    have value : nanos / 1000000 * 10 ^ (9 - 3) = nanos := by omega
    rw [value]
  split
  · next micros =>
    rw [fraction_padded (by decide) (by decide) (by omega)]
    have value : nanos / 1000 * 10 ^ (9 - 6) = nanos := by omega
    rw [value]
  · rw [fraction_padded (by decide) (by decide) (by omega)]
    have value : nanos * 10 ^ (9 - 9) = nanos := by omega
    rw [value]

end ParishSite.Time.Rfc3339

namespace ParishSite.Time.Instant

variable (t : Instant)

theorem date_isValid : t.date.IsValid := Date.ofDays_isValid _

theorem toDays_date : t.date.toDays = t.seconds / 86400 := Date.toDays_ofDays _

theorem date_year_bounds : -2147483648 ≤ t.date.year ∧ t.date.year ≤ 2147483647 := by
  have range := t.inRange
  unfold firstSecond lastSecond at range
  have small := Date.yearOf_small (n := t.seconds / 86400 + Date.epochDays)
    (by unfold Date.epochDays; omega) (by unfold Date.epochDays; omega)
  rw [date, Date.ofDays_year]
  omega

theorem hour_lt : t.hour < 24 := by
  unfold hour secondOfDay
  omega

theorem minute_lt : t.minute < 60 := by
  unfold minute secondOfDay
  omega

/-- A leap second is the sixtieth of its minute, and shares its count with the one before it. -/
theorem leap_shown (leap : t.isLeap = true) :
    t.second = 60 ∧ t.seconds % 60 = 59 ∧ t.nanos = t.fraction + 1000000000 := by
  have inside := t.inSecond
  have late : 1000000000 ≤ t.nanos := of_decide_eq_true leap
  simp only [second, secondOfDay, fraction, leap, if_true]
  omega

theorem ordinary_shown (ordinary : t.isLeap = false) :
    (t.second : Int) = t.seconds % 60 ∧ t.nanos = t.fraction := by
  have early : ¬ 1000000000 ≤ t.nanos := of_decide_eq_false ordinary
  simp only [second, secondOfDay, fraction, ordinary, Bool.false_eq_true, if_false]
  omega

theorem second_le : t.second ≤ 60 := by
  cases leap : t.isLeap with
  | true => exact Nat.le_of_eq (t.leap_shown leap).1
  | false =>
    have shown := (t.ordinary_shown leap).1
    omega

theorem hour_minute :
    (t.hour * 3600 + t.minute * 60 : Int) = t.seconds % 86400 - t.seconds % 60 := by
  unfold hour minute secondOfDay
  omega

/-- What a clock shows is the second of the day, where the sixtieth counts as the one before it. -/
theorem clock_eq : (t.hour * 3600 + t.minute * 60 +
    (if t.second = 60 then 59 else t.second : Nat) : Int) = t.seconds % 86400 := by
  rw [hour_minute]
  cases leap : t.isLeap with
  | true =>
    obtain ⟨sixty, last, -⟩ := t.leap_shown leap
    rw [if_pos sixty]
    omega
  | false =>
    have shown := (t.ordinary_shown leap).1
    rw [if_neg (by omega)]
    omega

theorem nanos_eq : (if t.second = 60 then t.fraction + 1000000000 else t.fraction) = t.nanos := by
  cases leap : t.isLeap with
  | true =>
    obtain ⟨sixty, -, whole⟩ := t.leap_shown leap
    rw [if_pos sixty, whole]
  | false =>
    obtain ⟨shown, whole⟩ := t.ordinary_shown leap
    rw [if_neg (by omega), whole]

theorem fraction_lt : t.fraction < 1000000000 := Nat.mod_lt _ (by decide)

theorem of?_eq : of? t.seconds t.nanos = some t := dif_pos ⟨t.inRange, t.inSecond⟩

end ParishSite.Time.Instant

namespace ParishSite.Time.Rfc3339

/-- The text of an instant is read as that instant. -/
theorem readChars_write (t : Instant) :
    readChars (dayText t.date ++ 'T' :: clockText t ++ ['Z']) = .ok t := by
  obtain ⟨yearLow, yearHigh⟩ := t.date_year_bounds
  obtain ⟨firstMonth, lastMonth, firstDay, lastDay⟩ := t.date_isValid
  have days : t.date.day ≤ 31 := Nat.le_trans lastDay (Date.daysInMonth_le _ _)
  have hours := t.hour_lt
  have minutes := t.minute_lt
  have seconds := t.second_le
  have clock := t.clock_eq
  have range := t.inRange
  have here : t.date.toDays * 86400 + (t.hour * 3600 + t.minute * 60 +
      (if t.second = 60 then 59 else t.second : Nat) : Int) = t.seconds := by
    rw [clock, t.toDays_date]
    omega
  simp only [readChars, dayText, clockText, List.append_assoc, List.cons_append,
    year_yearText yearLow yearHigh, separator_mark (c := '-') rfl, separator_mark (c := ':') rfl,
    field_padded firstMonth lastMonth (by omega), field_padded firstDay days (by omega),
    field_padded (Nat.zero_le t.hour) (Nat.le_of_lt_succ hours) (by omega),
    field_padded (Nat.zero_le t.minute) (Nat.le_of_lt_succ minutes) (by omega),
    field_padded (Nat.zero_le t.second) seconds (by omega),
    dayMark_mark, fraction_fractionText t.fraction_lt, bind, Except.bind]
  -- All the text is read; what is left puts its parts together.
  have ended : zone (Text.trimStart ['Z']) = .ok (0, []) := rfl
  have date : (⟨t.date.year, t.date.month, t.date.day⟩ : Date) = t.date := rfl
  simp only [ended, date, here, t.nanos_eq, Int.sub_zero, t.of?_eq]
  rw [if_neg (by decide), if_neg]
  rintro (invalid | early | late | far)
  · exact invalid t.date_isValid
  · exact Int.not_lt.mpr range.1 early
  · exact Int.not_lt.mpr range.2 late
  · exact absurd far (by decide)

theorem read_writeZ (t : Instant) : read (writeZ t) = .ok t := by
  rw [read, writeZ, write, String.toList_ofList]
  exact readChars_write t

end ParishSite.Time.Rfc3339
