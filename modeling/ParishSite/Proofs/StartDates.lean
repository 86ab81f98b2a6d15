import ParishSite.Number.Digits
import ParishSite.Proofs.ReopenedForms

/-! Starts of a class that are typed as dates. A text of four, two and two digits is shown with the day
first exactly if the calendar has that day, with the very same digits, so that nothing of the date is
lost. Any other text is kept as it is typed, whatever digits it is written in. -/

namespace ParishSite

namespace Time.Rfc3339

open Number (eq_of_value value_lt)

theorem padded_of_value {ds : List Char} (some : 0 < ds.length) (all : ∀ c ∈ ds, c.isDigit = true) :
    padded ds.length (Nat.ofDigitChars 10 ds 0) = ds :=
  eq_of_value (padded_digits _ _) all (padded_length some (value_lt all)) (padded_value _ _)

/-- A number is read to the end of a text of as many digits as it may have, or reading stops at
another character of that text. -/
theorem number_stops {most : Nat} {ds : List Char} (length : ds.length = most) (some : 0 < most)
    (rest : List Char) :
    (∀ c ∈ ds, c.isDigit = true) ∧ number most (ds ++ rest) = .ok (Nat.ofDigitChars 10 ds 0, rest) ∨
      (¬ ∀ c ∈ ds, c.isDigit = true) ∧
        ∀ n left, number most (ds ++ rest) = .ok (n, left) → ∃ c ∈ ds, ∃ more, left = c :: more := by
  have filled : ds ≠ [] := List.ne_nil_of_length_pos (by omega)
  by_cases all : ∀ c ∈ ds, c.isDigit = true
  · exact .inl ⟨all, number_append filled all rest (Nat.le_of_eq length) (.inl length)⟩
  refine .inr ⟨all, fun n left read => ?_⟩
  have taken : ∀ c ∈ ds.takeWhile Char.isDigit, c.isDigit = true := fun c member =>
    List.mem_takeWhile_imp member
  have whole : ds.takeWhile Char.isDigit ++ ds.dropWhile Char.isDigit = ds := List.takeWhile_append_dropWhile
  have stop := List.head?_dropWhile_not Char.isDigit ds
  cases cut : ds.dropWhile Char.isDigit with
  | nil =>
    rw [cut, List.append_nil] at whole
    rw [← whole] at all
    exact absurd taken all
  | cons c more =>
    rw [cut] at whole stop
    have member : c ∈ ds := by
      rw [← whole]
      simp
    have other : Undigited (c :: (more ++ rest)) := stop
    have fit : (ds.takeWhile Char.isDigit).length ≤ most := by
      rw [← length]
      exact (List.takeWhile_prefix _).length_le
    rw [← whole, List.append_assoc, List.cons_append] at read
    cases first : ds.takeWhile Char.isDigit with
    | nil =>
      rw [first, List.nil_append, number, digitOf?_other stop] at read
      cases read
    | cons d others =>
      rw [number_append (by rw [first]; exact List.cons_ne_nil _ _) taken _ fit (.inr other)] at read
      cases read
      exact ⟨c, member, _, rfl⟩

end Time.Rfc3339

namespace StartsLabel

open Time (Date)
open Time.Rfc3339 (padded yearText)

structure IsNumeral (width : Nat) (ds : List Char) : Prop where
  length : ds.length = width
  digits : ∀ c ∈ ds, c.isDigit = true

theorem IsNumeral.all {width : Nat} {ds : List Char} (numeral : IsNumeral width ds) :
    ds.all Char.isDigit = true := List.all_eq_true.mpr numeral.digits

def dateOf (year month day : List Char) : Date :=
  ⟨Nat.ofDigitChars 10 year 0, Nat.ofDigitChars 10 month 0, Nat.ofDigitChars 10 day 0⟩

/-- Four digits for a year, two for a month and two for a day, which the calendar counts. -/
structure IsDay (year month day : List Char) : Prop where
  years : IsNumeral 4 year
  months : IsNumeral 2 month
  days : IsNumeral 2 day
  counted : ∃ count, Date.ofDays count = dateOf year month day

theorem IsDay.valid {year month day : List Char} (isDay : IsDay year month day) :
    (dateOf year month day).IsValid := Date.isValid_iff_counted.mpr isDay.counted

/-- A text names a day by its digits, with hyphens between. -/
inductive Names : List Char → Date → Prop
  | intro {year month day} (isDay : IsDay year month day) :
      Names (year ++ '-' :: month ++ '-' :: day) (dateOf year month day)

theorem date?_iff {typed : List Char} {d : Date} : date? typed = some d ↔ Names typed d := by
  constructor
  · intro found
    unfold date? at found
    split at found
    · next y₁ y₂ y₃ y₄ m₁ m₂ d₁ d₂ =>
      simp only [number?_eq, Option.bind_eq_bind, Option.bind_eq_some_iff,
        Option.ite_none_right_eq_some, Option.some.injEq, List.all_eq_true] at found
      obtain ⟨_, ⟨years, rfl⟩, _, ⟨months, rfl⟩, _, ⟨days, rfl⟩, valid, rfl⟩ := found
      exact .intro ⟨⟨rfl, years⟩, ⟨rfl, months⟩, ⟨rfl, days⟩, Date.isValid_iff_counted.mp valid⟩
    · cases found
  · rintro (@⟨year, month, day, isDay⟩)
    have valid := isDay.valid
    obtain ⟨years, months, days, -⟩ := isDay
    obtain ⟨y₁, y₂, y₃, y₄, rfl⟩ := List.length_eq_four.mp years.length
    obtain ⟨m₁, m₂, rfl⟩ := List.length_eq_two.mp months.length
    obtain ⟨d₁, d₂, rfl⟩ := List.length_eq_two.mp days.length
    change date? [y₁, y₂, y₃, y₄, '-', m₁, m₂, '-', d₁, d₂] = _
    simp only [date?, number?_eq, years.all, months.all, days.all, if_true, Option.bind_eq_bind,
      Option.bind_some]
    exact if_pos valid

theorem IsNumeral.written {width : Nat} {ds : List Char} (numeral : IsNumeral width ds)
    (some : 0 < width) : padded width (Nat.ofDigitChars 10 ds 0) = ds := by
  obtain ⟨rfl, digits⟩ := numeral
  exact Time.Rfc3339.padded_of_value some digits

theorem IsNumeral.small {year : List Char} (years : IsNumeral 4 year) :
    Nat.ofDigitChars 10 year 0 < 10000 := by
  have small := Number.value_lt years.digits
  rw [years.length] at small
  exact small

theorem IsNumeral.yearText {year : List Char} (years : IsNumeral 4 year) :
    yearText (Nat.ofDigitChars 10 year 0) = year := by
  have small := years.small
  rw [Time.Rfc3339.yearText, if_pos (by omega), Int.toNat_natCast, years.written (by decide)]

theorem IsDay.dayFirst {year month day : List Char} (isDay : IsDay year month day) :
    dayFirst (dateOf year month day) = day ++ '/' :: month ++ '/' :: year := by
  obtain ⟨years, months, days, -⟩ := isDay
  rw [StartsLabel.dayFirst, dateOf, years.yearText, months.written (by decide), days.written (by decide)]

theorem Names.dayText {typed : List Char} {d : Date} (names : Names typed d) :
    typed = Time.Rfc3339.dayText d := by
  obtain ⟨years, months, days, -⟩ := names
  rw [Time.Rfc3339.dayText, dateOf, years.yearText, months.written (by decide), days.written (by decide)]

/-- Four, two and two digits of some class, with hyphens between. -/
def Patterned (isDigit : Char → Prop) (typed : List Char) : Prop :=
  ∃ year month day : List Char, typed = year ++ '-' :: (month ++ '-' :: day) ∧
    (year.length = 4 ∧ month.length = 2 ∧ day.length = 2) ∧ ∀ c ∈ year ++ (month ++ day), isDigit c

/-- Reads a date from left to right, as times are read: a sign may stand before the year, white space
before every number, and numbers need no leading zeros. -/
def dateReader : Time.Rfc3339.Reader Date := fun s => do
  let (year, s) ← Time.Rfc3339.year s
  let ((), s) ← Time.Rfc3339.literal '-' s
  let (month, s) ← Time.Rfc3339.field 1 12 s
  let ((), s) ← Time.Rfc3339.literal '-' s
  let (day, s) ← Time.Rfc3339.field 1 31 s
  return (⟨year, month, day⟩, s)

def Plain (c : Char) : Prop := c ≠ '-' ∧ c ≠ '+' ∧ Text.isBlank c = false

/-- A class of digits holds the ASCII digits, and nothing that may stand around a number. -/
structure IsDigitClass (isDigit : Char → Prop) : Prop where
  ascii : ∀ c, c.isDigit = true → isDigit c
  plain : ∀ c, isDigit c → Plain c

theorem number_hyphen {most n : Nat} {ds rest left after : List Char} (length : ds.length = most)
    (some : 0 < most) (plain : '-' ∉ ds)
    (read : Time.Rfc3339.number most (ds ++ '-' :: rest) = .ok (n, left))
    (mark : Time.Rfc3339.literal '-' left = .ok ((), after)) :
    IsNumeral most ds ∧ n = Nat.ofDigitChars 10 ds 0 ∧ after = rest := by
  rcases Time.Rfc3339.number_stops length some ('-' :: rest) with ⟨all, whole⟩ | ⟨-, stops⟩
  · rw [whole] at read
    cases read
    cases mark
    exact ⟨⟨length, all⟩, rfl, rfl⟩
  · obtain ⟨c, member, more, rfl⟩ := stops n left read
    have other : c ≠ '-' := fun same => plain (same ▸ member)
    rw [Time.Rfc3339.literal, if_neg other] at mark
    cases mark

theorem year_plain {ds tail left : List Char} (some : 0 < ds.length) (plain : ∀ c ∈ ds, Plain c)
    {y : Int} (read : Time.Rfc3339.year (ds ++ tail) = .ok (y, left)) :
    ∃ n : Nat, y = n ∧ Time.Rfc3339.number 4 (ds ++ tail) = .ok (n, left) := by
  obtain ⟨c, ds, rfl⟩ := List.exists_cons_of_length_pos some
  obtain ⟨minus, plus, solid⟩ := plain c List.mem_cons_self
  rw [List.cons_append] at read ⊢
  rw [Time.Rfc3339.year, Time.Rfc3339.trimStart_solid solid] at read
  split at read
  · next sign => cases sign; exact absurd rfl minus
  · next sign => cases sign; exact absurd rfl plus
  · obtain ⟨⟨n, left⟩, number, kept⟩ := ok_of_bind read
    cases kept
    exact ⟨n, rfl, number⟩

theorem field_plain {ds tail left : List Char} (some : 0 < ds.length) (plain : ∀ c ∈ ds, Plain c)
    {low high n : Nat} (read : Time.Rfc3339.field low high (ds ++ tail) = .ok (n, left)) :
    Time.Rfc3339.number 2 (ds ++ tail) = .ok (n, left) := by
  obtain ⟨c, ds, rfl⟩ := List.exists_cons_of_length_pos some
  rw [List.cons_append] at read ⊢
  rw [Time.Rfc3339.field, Time.Rfc3339.trimStart_solid (plain c List.mem_cons_self).2.2] at read
  obtain ⟨⟨m, left⟩, number, kept⟩ := ok_of_bind read
  dsimp only at kept
  split at kept
  · cases kept
    exact number
  · cases kept

theorem dateReader_dayText {d : Date} (valid : d.IsValid) (early : 0 ≤ d.year) (late : d.year ≤ 9999) :
    dateReader (Time.Rfc3339.dayText d) = .ok (d, []) := by
  obtain ⟨firstMonth, lastMonth, firstDay, lastDay⟩ := valid
  have most : d.day ≤ 31 := Nat.le_trans lastDay (Date.daysInMonth_le _ _)
  have day := Time.Rfc3339.field_padded firstDay most (by omega) []
  rw [List.append_nil] at day
  simp only [dateReader, Time.Rfc3339.dayText, List.append_assoc, List.cons_append,
    Time.Rfc3339.year_yearText (show -2147483648 ≤ d.year by omega) (by omega),
    Time.Rfc3339.literal, Time.Rfc3339.field_padded firstMonth lastMonth (by omega), day, bind,
    Except.bind, if_true]
  rfl

/-- What is read as a date is a text of ASCII digits, if the digits of some class are where they have to
be. -/
theorem dateReader_patterned {isDigit : Char → Prop} (digits : IsDigitClass isDigit)
    {year month day : List Char} (years : year.length = 4) (months : month.length = 2)
    (days : day.length = 2) (all : ∀ c ∈ year ++ (month ++ day), isDigit c) {d : Date}
    (read : dateReader (year ++ '-' :: (month ++ '-' :: day)) = .ok (d, [])) :
    (IsNumeral 4 year ∧ IsNumeral 2 month ∧ IsNumeral 2 day) ∧ d = dateOf year month day := by
  have inYear (c : Char) (member : c ∈ year) : Plain c := digits.plain c (all c (by simp [member]))
  have inMonth (c : Char) (member : c ∈ month) : Plain c := digits.plain c (all c (by simp [member]))
  have inDay (c : Char) (member : c ∈ day) : Plain c := digits.plain c (all c (by simp [member]))
  obtain ⟨⟨y, afterYear⟩, readYear, read⟩ := ok_of_bind read
  obtain ⟨⟨⟨⟩, beforeMonth⟩, mark, read⟩ := ok_of_bind read
  obtain ⟨⟨m, afterMonth⟩, readMonth, read⟩ := ok_of_bind read
  obtain ⟨⟨⟨⟩, beforeDay⟩, mark', read⟩ := ok_of_bind read
  obtain ⟨⟨n, left⟩, readDay, read⟩ := ok_of_bind read
  cases read
  obtain ⟨k, rfl, yearNumber⟩ := year_plain (by omega) inYear readYear
  obtain ⟨yearRead, rfl, rfl⟩ := number_hyphen years (by decide)
    (fun member => (inYear _ member).1 rfl) yearNumber mark
  have monthNumber := field_plain (by omega) inMonth readMonth
  obtain ⟨monthRead, rfl, rfl⟩ := number_hyphen months (by decide)
    (fun member => (inMonth _ member).1 rfl) monthNumber mark'
  rw [← List.append_nil beforeDay] at readDay
  have dayNumber := field_plain (by omega) inDay readDay
  rcases Time.Rfc3339.number_stops days (by decide) [] with ⟨dayDigits, whole⟩ | ⟨-, stops⟩
  · rw [whole] at dayNumber
    cases dayNumber
    exact ⟨⟨yearRead, monthRead, ⟨days, dayDigits⟩⟩, rfl⟩
  · obtain ⟨c, -, more, left⟩ := stops n [] dayNumber
    cases left

/-- Whatever digits the pattern of a date allows, what is left of it to be read as a date is a text of
ASCII digits. -/
theorem date?_of_pattern {isDigit : Char → Prop} (digits : IsDigitClass isDigit) (typed : List Char)
    (d : Date) :
    date? typed = some d ↔
      Patterned isDigit typed ∧ dateReader typed = .ok (d, []) ∧ d.IsValid := by
  rw [date?_iff]
  constructor
  · intro names
    have text := names.dayText
    obtain ⟨isDay⟩ := names
    have valid := isDay.valid
    obtain ⟨years, months, days, -⟩ := isDay
    refine ⟨⟨_, _, _, List.append_assoc _ _ _, ⟨years.length, months.length, days.length⟩, ?_⟩, ?_, valid⟩
    · intro c member
      apply digits.ascii
      simp only [List.mem_append] at member
      rcases member with member | member | member
      · exact years.digits c member
      · exact months.digits c member
      · exact days.digits c member
    · have small := years.small
      rw [text]
      refine dateReader_dayText valid (Int.natCast_nonneg _) ?_
      change (Nat.ofDigitChars 10 _ 0 : Int) ≤ 9999
      omega
  · rintro ⟨⟨year, month, day, rfl, ⟨years, months, days⟩, all⟩, read, valid⟩
    obtain ⟨⟨years, months, days⟩, rfl⟩ := dateReader_patterned digits years months days all read
    have names := Names.intro ⟨years, months, days, Date.isValid_iff_counted.mp valid⟩
    rwa [List.append_assoc] at names

/-- The date that is read off a text with the day first, by its places. -/
def ofDayFirst (s : List Char) : Date := dateOf (s.drop 6) ((s.drop 3).take 2) (s.take 2)

theorem IsDay.ofDayFirst {year month day : List Char} (isDay : IsDay year month day) :
    ofDayFirst (day ++ '/' :: month ++ '/' :: year) = dateOf year month day := by
  obtain ⟨m₁, m₂, rfl⟩ := List.length_eq_two.mp isDay.months.length
  obtain ⟨d₁, d₂, rfl⟩ := List.length_eq_two.mp isDay.days.length
  rfl

/-- A start that names a day, with any white space around it, is kept with the day first and the same
digits, so that the day can be read back. Any other start is kept as it is, without white space at
its ends. Whatever digits the pattern of a date allows, the day is the one that is read off a text of that
pattern. -/
theorem start_rewritten_iff_day (label : String) :
    (∀ year month day, IsDay year month day →
      Text.trim label.toList = year ++ '-' :: month ++ '-' :: day →
        normalized label = String.ofList (day ++ '/' :: month ++ '/' :: year) ∧
        ofDayFirst (normalized label).toList = dateOf year month day) ∧
    ((∀ year month day, IsDay year month day →
      Text.trim label.toList ≠ year ++ '-' :: month ++ '-' :: day) →
        normalized label = Text.trimmed label) ∧
    ∀ isDigit, IsDigitClass isDigit → ∀ d, date? (Text.trim label.toList) = some d ↔
      Patterned isDigit (Text.trim label.toList) ∧
        dateReader (Text.trim label.toList) = .ok (d, []) ∧ d.IsValid := by
  refine ⟨?_, ?_, fun _ digits d => date?_of_pattern digits _ d⟩
  · intro year month day isDay typed
    have found : date? (Text.trim label.toList) = some (dateOf year month day) := by
      rw [typed]
      exact date?_iff.mpr (.intro isDay)
    rw [normalized_date found, isDay.dayFirst, String.toList_ofList]
    exact ⟨rfl, isDay.ofDayFirst⟩
  · intro other
    refine normalized_plain (Option.eq_none_iff_forall_ne_some.mpr fun d found => ?_)
    have names := date?_iff.mp found
    generalize Text.trim label.toList = typed at other names
    cases names with
    | intro isDay => exact other _ _ _ isDay rfl

theorem leapDay_isDay : IsDay ['2', '0', '2', '4'] ['0', '2'] ['2', '9'] where
  years := ⟨rfl, Number.each_char rfl⟩
  months := ⟨rfl, Number.each_char rfl⟩
  days := ⟨rfl, Number.each_char rfl⟩
  counted := ⟨19782, by decide⟩

def IsLatinOrArabicDigit (c : Char) : Prop := c.isDigit = true ∨ 0x660 ≤ c.toNat ∧ c.toNat ≤ 0x669

instance : DecidablePred IsLatinOrArabicDigit := fun _ => inferInstanceAs (Decidable (_ ∨ _))

theorem isLatinOrArabicDigit_class : IsDigitClass IsLatinOrArabicDigit where
  ascii _ digit := .inl digit
  plain c digit := by
    rcases digit with latin | ⟨low, high⟩
    · refine ⟨?_, ?_, Text.isBlank_digit latin⟩
      · rintro rfl
        exact absurd latin (by decide)
      · rintro rfl
        exact absurd latin (by decide)
    · refine ⟨?_, ?_, ?_⟩
      · rintro rfl
        exact absurd low (by decide)
      · rintro rfl
        exact absurd low (by decide)
      · simp only [Text.isBlank, Bool.or_eq_false_iff, Bool.and_eq_false_iff, decide_eq_false_iff_not,
          beq_eq_false_iff_ne]
        omega

/-- The last day of February is rewritten in a leap year, and in no other year; in the digits of another
script it has the pattern of a date and is not rewritten. -/
theorem leap_day_rewritten :
    IsDay ['2', '0', '2', '4'] ['0', '2'] ['2', '9'] ∧
      normalized "\u2003 2024-02-29\n" = "29/02/2024" ∧
      (∀ year month day, IsDay year month day →
        "2025-02-29".toList ≠ year ++ '-' :: month ++ '-' :: day) ∧
      normalized " 2025-02-29 " = "2025-02-29" ∧
      Patterned IsLatinOrArabicDigit "٢٠٢٤-٠٢-٢٩".toList ∧
      normalized "٢٠٢٤-٠٢-٢٩" = "٢٠٢٤-٠٢-٢٩" := by
  have other (year month day : List Char) (isDay : IsDay year month day) :
      "2025-02-29".toList ≠ year ++ '-' :: month ++ '-' :: day := by
    intro same
    have found := date?_iff.mpr (.intro isDay)
    rw [← same] at found
    cases found
  refine ⟨leapDay_isDay, ?_, other, ?_, ?_, ?_⟩
  · exact ((start_rewritten_iff_day "\u2003 2024-02-29\n").1 _ _ _ leapDay_isDay (by decide)).1
  · exact (start_rewritten_iff_day " 2025-02-29 ").2.1 other
  · exact ⟨"٢٠٢٤".toList, "٠٢".toList, "٢٩".toList, by decide, by decide, Number.each_char rfl⟩
  · refine normalized_plain (Option.eq_none_iff_forall_ne_some.mpr fun d found => ?_)
    obtain ⟨-, read, -⟩ := ((start_rewritten_iff_day "٢٠٢٤-٠٢-٢٩").2.2 IsLatinOrArabicDigit
      isLatinOrArabicDigit_class d).mp found
    cases read

end StartsLabel
end ParishSite
