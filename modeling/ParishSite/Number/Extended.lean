import ParishSite.Number.Digits
import ParishSite.Number.Layout
import ParishSite.Text.LowerCase

/-! Floating-point numbers with the infinities and what is not a number, as they are typed in. A sign,
a point and a power of ten may stand in the text, and there must be a digit before the power. -/

namespace ParishSite.Number

inductive Extended
  | finite (x : Binary64)
  | infinite (negative : Bool)
  | notNumber
deriving DecidableEq

namespace Extended

private def isDigit (c : Char) : Bool := '0' ≤ c && c ≤ '9'

private def valueOf (ds : List Char) : Nat := ds.foldl (fun n c => n * 10 + (c.toNat - 48)) 0

/-- The number of a significand and a power of ten. Powers that are out of reach are not worked out. -/
private def ofDecimal (negative : Bool) (digits : List Char) (exponent : Int) : Extended :=
  let digits := digits.dropWhile (· = '0')
  let size : Int := digits.length + exponent
  if digits.isEmpty || size < -400 then finite (Binary64.zero negative)
  else if size > 400 then infinite negative
  else
    match Binary64.ofDecimal? negative (valueOf digits) exponent with
    | some x => finite x
    | none => infinite negative

private def powerOf? (s : List Char) : Option Int :=
  let digits? (ds : List Char) : Option Nat :=
    if !ds.isEmpty && ds.all isDigit then some (valueOf ds) else none
  match s with
  | [] => some 0
  | e :: rest =>
    if e = 'e' ∨ e = 'E' then
      match rest with
      | '-' :: ds => (digits? ds).map fun n => -(n : Int)
      | '+' :: ds => (digits? ds).map Int.ofNat
      | ds => (digits? ds).map Int.ofNat
    else none

/-- The number of the digits before a point, those behind it, and what follows them. -/
private def number? (negative : Bool) (ds fraction tail : List Char) : Option Extended :=
  if ds.isEmpty && fraction.isEmpty then none
  else (powerOf? tail).map fun power => ofDecimal negative (ds ++ fraction) (power - fraction.length)

private def decimal? (negative : Bool) (s : List Char) : Option Extended :=
  match s.dropWhile isDigit with
  | '.' :: more => number? negative (s.takeWhile isDigit) (more.takeWhile isDigit) (more.dropWhile isDigit)
  | more => number? negative (s.takeWhile isDigit) [] more

private def unsigned? (negative : Bool) (s : List Char) : Option Extended :=
  let word := String.ofList (s.map Char.toLower)
  if word = "inf" ∨ word = "infinity" then some (infinite negative)
  else if word = "nan" then some notNumber
  else decimal? negative s

def read? (s : String) : Option Extended :=
  match s.toList with
  | '-' :: rest => unsigned? true rest
  | '+' :: rest => unsigned? false rest
  | rest => unsigned? false rest

def render : Extended → String
  | finite x => Layout.plain.render x
  | infinite false => "inf"
  | infinite true => "-inf"
  | notNumber => "NaN"

/-- The nearest natural number of at most 64 bits; what is not a number counts as zero. -/
def toNat64 : Extended → Nat
  | finite x => min x.round.toNat (Nat.pow 2 64 - 1)
  | infinite false => Nat.pow 2 64 - 1
  | infinite true => 0
  | notNumber => 0

def isZero : Extended → Bool
  | finite x => x.isZero
  | _ => false

/-- A power of ten behind a number, if there is one. -/
inductive Power : List Char → Int → Prop
  | none : Power [] 0
  | raised {e typed n} (letter : e = 'e' ∨ e = 'E') (whole : Whole typed n) : Power (e :: typed) n

/-- Digits that may have a point among them and a power of ten behind them. The number is a significand
times a power of ten. -/
inductive Decimal : List Char → Nat → Int → Prop
  | whole {ds tail n} (digits : Digits ds) (power : Power tail n) :
      Decimal (ds ++ tail) (Nat.ofDigitChars 10 ds 0) n
  | pointed {ds fraction tail n} (digits : Digits (ds ++ fraction)) (power : Power tail n) :
      Decimal (ds ++ '.' :: (fraction ++ tail)) (Nat.ofDigitChars 10 (ds ++ fraction) 0)
        (n - fraction.length)

/-- The nearest number to a decimal one, or an infinity if it is out of reach. -/
def nearest (negative : Bool) (significand : Nat) (exponent : Int) : Extended :=
  match Binary64.ofDecimal? negative significand exponent with
  | some x => finite x
  | none => infinite negative

/-- What is typed of a number behind its sign. -/
inductive Unsigned (negative : Bool) : List Char → Extended → Prop
  | infinite {s} (word : s.map Char.toLower = ['i', 'n', 'f'] ∨
      s.map Char.toLower = ['i', 'n', 'f', 'i', 'n', 'i', 't', 'y']) : Unsigned negative s (infinite negative)
  | notNumber {s} (word : s.map Char.toLower = ['n', 'a', 'n']) : Unsigned negative s notNumber
  | decimal {s significand exponent} (typed : Decimal s significand exponent) :
      Unsigned negative s (nearest negative significand exponent)

/-- A number as it is typed. -/
inductive Typed : List Char → Extended → Prop
  | plain {s x} (unsigned : Unsigned false s x) : Typed s x
  | plus {s x} (unsigned : Unsigned false s x) : Typed ('+' :: s) x
  | minus {s x} (unsigned : Unsigned true s x) : Typed ('-' :: s) x

private theorem isDigit_eq : isDigit = Char.isDigit := funext between_isDigit

private theorem valueOf_eq (ds : List Char) : valueOf ds = Nat.ofDigitChars 10 ds 0 := foldl_value ds

private theorem digits_iff {ds : List Char} : (!ds.isEmpty && ds.all isDigit) = true ↔ Digits ds := by
  rw [isDigit_eq, Bool.and_eq_true, List.all_eq_true, Bool.not_eq_true', List.isEmpty_eq_false_iff]
  exact ⟨fun both => ⟨both.1, both.2⟩, fun digits => ⟨digits.filled, digits.all⟩⟩

private theorem digits?_iff {ds : List Char} {n : Int} (made : Option Nat → Option Int) (number : Nat → Int)
    (kept : ∀ k, made (some k) = some (number k)) (lost : made none = none) :
    made (if !ds.isEmpty && ds.all isDigit then some (valueOf ds) else none) = some n ↔
      Digits ds ∧ n = number (Nat.ofDigitChars 10 ds 0) := by
  by_cases digits : Digits ds
  · rw [if_pos (digits_iff.mpr digits), valueOf_eq, kept, and_iff_right digits]
    exact Option.some_inj.trans eq_comm
  · rw [if_neg (mt digits_iff.mp digits), lost]
    exact iff_of_false (fun none => nomatch none) fun both => digits both.1

private theorem powerOf?_cons {e : Char} {typed : List Char} {n : Int} :
    powerOf? (e :: typed) = some n ↔ (e = 'e' ∨ e = 'E') ∧ Whole typed n := by
  unfold powerOf?
  dsimp only
  by_cases letter : e = 'e' ∨ e = 'E'
  · rw [if_pos letter, and_iff_right letter]
    split
    · next ds =>
      rw [whole_minus]
      let negated (o : Option Nat) : Option Int := (o : Option Int).map fun n => -n
      exact digits?_iff negated (fun k => -(k : Int)) (fun _ => rfl) rfl
    · next ds =>
      rw [whole_plus]
      exact digits?_iff (Option.map Int.ofNat) Int.ofNat (fun _ => rfl) rfl
    · next noMinus noPlus =>
      rw [whole_plain noMinus noPlus]
      exact digits?_iff (Option.map Int.ofNat) Int.ofNat (fun _ => rfl) rfl
  · rw [if_neg letter]
    exact iff_of_false (fun none => nomatch none) fun both => letter both.1

theorem powerOf?_iff {s : List Char} {n : Int} : powerOf? s = some n ↔ Power s n := by
  cases s with
  | nil =>
    constructor
    · rintro ⟨⟩
      exact .none
    · rintro ⟨⟩
      rfl
  | cons e typed =>
    rw [powerOf?_cons]
    constructor
    · rintro ⟨letter, whole⟩
      exact .raised letter whole
    · intro power
      cases power with
      | raised letter whole => exact ⟨letter, whole⟩

theorem Power.stop {tail : List Char} {n : Int} (power : Power tail n) :
    ∀ c ∈ tail.head?, c.isDigit = false ∧ c ≠ '.' := by
  cases power with
  | none => simp
  | raised letter whole => rcases letter with rfl | rfl <;> simp

/-- Digits end where something else begins. -/
private theorem span_digits {ds tail : List Char} (all : ∀ c ∈ ds, c.isDigit = true)
    (stop : ∀ c ∈ tail.head?, c.isDigit = false) :
    (ds ++ tail).takeWhile isDigit = ds ∧ (ds ++ tail).dropWhile isDigit = tail := by
  rw [isDigit_eq, List.takeWhile_append_of_pos all, List.dropWhile_append_of_pos all]
  cases tail with
  | nil => simp
  | cons c tail =>
    have other : ¬ c.isDigit = true := by simpa using stop c rfl
    rw [List.takeWhile_cons_of_neg other, List.dropWhile_cons_of_neg other, List.append_nil]
    exact ⟨rfl, rfl⟩

/-- Powers that are out of reach need not be worked out. -/
private theorem ofDecimal_eq (negative : Bool) {digits : List Char} (all : ∀ c ∈ digits, c.isDigit = true)
    (exponent : Int) :
    ofDecimal negative digits exponent = nearest negative (Nat.ofDigitChars 10 digits 0) exponent := by
  have digit : ∀ c ∈ digits.dropWhile (· = '0'), c.isDigit = true := fun c member =>
    all c ((List.dropWhile_suffix _).mem member)
  rw [ofDecimal, nearest, ← value_dropZeros digits]
  have lead := List.head?_dropWhile_not (· = '0') digits
  generalize digits.dropWhile (· = '0') = ds at digit lead
  rw [valueOf_eq]
  cases ds with
  | nil =>
    rw [Nat.ofDigitChars_nil, Binary64.ofDecimal?_nothing]
    rfl
  | cons c ds =>
    have nonzero : c ≠ '0' := by simpa using lead
    have least := le_value (digit c List.mem_cons_self) nonzero ds
    have most := value_lt digit
    by_cases small : ((c :: ds).length : Int) + exponent < -400
    · rw [if_pos (by simpa using small),
        Binary64.ofDecimal?_zero negative (Nat.le_refl 400) (Nat.le_of_lt most) (by omega)]
    · rw [if_neg (by simpa using small)]
      split
      · next large =>
        rw [Binary64.ofDecimal?_none negative (Nat.le_refl 400) least (by simp at large; omega)]
      · rfl

private theorem number?_iff {negative : Bool} {ds fraction tail : List Char} {x : Extended}
    (all : ∀ c ∈ ds ++ fraction, c.isDigit = true) :
    number? negative ds fraction tail = some x ↔
      Digits (ds ++ fraction) ∧ ∃ n, Power tail n ∧
        nearest negative (Nat.ofDigitChars 10 (ds ++ fraction) 0) (n - fraction.length) = x := by
  have empty : (ds.isEmpty && fraction.isEmpty) = true ↔ ds ++ fraction = [] := by simp
  rw [number?]
  by_cases filled : ds ++ fraction = []
  · rw [if_pos (empty.mpr filled)]
    exact iff_of_false (fun none => nomatch none) fun both => both.1.filled filled
  · rw [if_neg (mt empty.mp filled), and_iff_right ⟨filled, all⟩, Option.map_eq_some_iff]
    simp only [powerOf?_iff, ofDecimal_eq negative all]

private theorem number?_whole {negative : Bool} {ds tail : List Char} {x : Extended}
    (all : ∀ c ∈ ds, c.isDigit = true) :
    number? negative ds [] tail = some x ↔
      Digits ds ∧ ∃ n, Power tail n ∧ nearest negative (Nat.ofDigitChars 10 ds 0) n = x := by
  have only : ∀ c ∈ ds ++ [], c.isDigit = true := by rwa [List.append_nil]
  rw [number?_iff only]
  simp only [List.append_nil, List.length_nil, Int.natCast_zero, Int.sub_zero]

private theorem decimal?_plain (negative : Bool) {ds tail : List Char} (all : ∀ c ∈ ds, c.isDigit = true)
    (stop : ∀ c ∈ tail.head?, c.isDigit = false ∧ c ≠ '.') :
    decimal? negative (ds ++ tail) = number? negative ds [] tail := by
  obtain ⟨taken, left⟩ := span_digits all fun c head => (stop c head).1
  rw [decimal?, taken, left]
  split
  · exact absurd rfl (stop '.' rfl).2
  · rfl

private theorem decimal?_pointed (negative : Bool) {ds fraction tail : List Char}
    (all : ∀ c ∈ ds ++ fraction, c.isDigit = true) (stop : ∀ c ∈ tail.head?, c.isDigit = false) :
    decimal? negative (ds ++ '.' :: (fraction ++ tail)) = number? negative ds fraction tail := by
  obtain ⟨before, behind⟩ := List.forall_mem_append.mp all
  have point : ∀ c ∈ ('.' :: (fraction ++ tail)).head?, c.isDigit = false := by
    rintro _ ⟨⟩
    rfl
  obtain ⟨taken, left⟩ := span_digits before point
  obtain ⟨taken', left'⟩ := span_digits behind stop
  rw [decimal?, taken, left]
  change number? negative ds ((fraction ++ tail).takeWhile isDigit) _ = _
  rw [taken', left']

private theorem exists_span (s : List Char) :
    ∃ ds tail, s = ds ++ tail ∧ (∀ c ∈ ds, c.isDigit = true) ∧ ∀ c ∈ tail.head?, c.isDigit = false := by
  refine ⟨s.takeWhile Char.isDigit, s.dropWhile Char.isDigit, List.takeWhile_append_dropWhile.symm,
    fun c member => List.all_eq_true.mp List.all_takeWhile c member, fun c head => ?_⟩
  have stop := List.head?_dropWhile_not Char.isDigit s
  rw [head] at stop
  exact stop

private theorem decimal?_iff {negative : Bool} {s : List Char} {x : Extended} :
    decimal? negative s = some x ↔
      ∃ significand exponent, Decimal s significand exponent ∧ nearest negative significand exponent = x := by
  constructor
  · intro read
    obtain ⟨ds, tail, rfl, all, stop⟩ := exists_span s
    by_cases point : ∃ more, tail = '.' :: more
    · obtain ⟨more, rfl⟩ := point
      obtain ⟨fraction, tail, rfl, behind, stop'⟩ := exists_span more
      have both := List.forall_mem_append.mpr ⟨all, behind⟩
      rw [decimal?_pointed negative both stop', number?_iff both] at read
      obtain ⟨digits, n, power, number⟩ := read
      exact ⟨_, _, .pointed digits power, number⟩
    · have stop' : ∀ c ∈ tail.head?, c.isDigit = false ∧ c ≠ '.' := by
        intro c head
        refine ⟨stop c head, ?_⟩
        rintro rfl
        exact point (List.head?_eq_some_iff.mp head)
      rw [decimal?_plain negative all stop', number?_whole all] at read
      obtain ⟨digits, n, power, number⟩ := read
      exact ⟨_, _, .whole digits power, number⟩
  · rintro ⟨significand, exponent, decimal, rfl⟩
    cases decimal with
    | @whole ds tail n digits power =>
      rw [decimal?_plain negative digits.all power.stop, number?_whole digits.all]
      exact ⟨digits, exponent, power, rfl⟩
    | @pointed ds fraction tail n digits power =>
      rw [decimal?_pointed negative digits.all fun c head => (power.stop c head).1,
        number?_iff digits.all]
      exact ⟨digits, n, power, rfl⟩

/-- A number in digits begins with a digit or with its point. -/
theorem Decimal.head {s : List Char} {significand : Nat} {exponent : Int}
    (decimal : Decimal s significand exponent) :
    ∃ c rest, s = c :: rest ∧ (c.isDigit = true ∨ c = '.') := by
  cases decimal with
  | @whole ds tail n digits power =>
    obtain ⟨c, ds, rfl⟩ := List.exists_cons_of_ne_nil digits.filled
    exact ⟨c, _, List.cons_append, .inl (digits.all c List.mem_cons_self)⟩
  | @pointed ds fraction tail n digits power =>
    cases ds with
    | nil => exact ⟨_, _, rfl, .inr rfl⟩
    | cons c ds => exact ⟨c, _, List.cons_append, .inl (digits.all c List.mem_cons_self)⟩

theorem toLower_digit {c : Char} (digit : c.isDigit = true ∨ c = '.') : c.toLower = c := by
  rcases digit with digit | rfl
  · have range := digit_range digit
    unfold Char.toLower
    apply dif_neg
    rintro ⟨least, -⟩
    have capital : 65 ≤ c.toNat := UInt32.le_iff_toNat_le.mp least
    omega
  · rfl

private theorem isWord_iff {s : List Char} (word : String) :
    String.ofList (s.map Char.toLower) = word ↔ s.map Char.toLower = word.toList := by
  rw [← String.toList_inj, String.toList_ofList]

theorem unsigned?_iff {negative : Bool} {s : List Char} {x : Extended} :
    unsigned? negative s = some x ↔ Unsigned negative s x := by
  unfold unsigned?
  simp only [isWord_iff]
  constructor
  · intro read
    split at read
    · next word =>
      cases read
      exact .infinite word
    split at read
    · next word =>
      cases read
      exact .notNumber word
    · obtain ⟨significand, exponent, decimal, rfl⟩ := decimal?_iff.mp read
      exact .decimal decimal
  · intro unsigned
    cases unsigned with
    | infinite word => exact if_pos word
    | notNumber word =>
      rw [word, if_neg (by decide)]
      exact if_pos rfl
    | decimal decimal =>
      obtain ⟨c, rest, rfl, digit⟩ := decimal.head
      have noWord {first : Char} (letter : ¬ (first.isDigit = true ∨ first = '.')) (more : List Char) :
          (c :: rest).map Char.toLower ≠ first :: more := by
        intro same
        rw [List.map_cons, toLower_digit digit] at same
        cases same
        exact letter digit
      rw [if_neg, if_neg]
      · exact decimal?_iff.mpr ⟨_, _, decimal, rfl⟩
      · exact noWord (by decide) _
      · rintro (same | same)
        · exact noWord (by decide) _ same
        · exact noWord (by decide) _ same

theorem Unsigned.head {negative : Bool} {s : List Char} {x : Extended} (unsigned : Unsigned negative s x) :
    ∃ c rest, s = c :: rest ∧ ((c.isDigit = true ∨ c = '.') ∨ c.toLower ∈ ['i', 'n']) := by
  have letter {first : Char} {more : List Char} (word : s.map Char.toLower = first :: more)
      (starts : first ∈ ['i', 'n']) :
      ∃ c rest, s = c :: rest ∧ ((c.isDigit = true ∨ c = '.') ∨ c.toLower ∈ ['i', 'n']) := by
    obtain ⟨c, rest, rfl, rfl, -⟩ := List.map_eq_cons_iff.mp word
    exact ⟨c, rest, rfl, .inr starts⟩
  cases unsigned with
  | infinite word => rcases word with word | word <;> exact letter word (by decide)
  | notNumber word => exact letter word (by decide)
  | decimal decimal =>
    obtain ⟨c, rest, same, digit⟩ := decimal.head
    exact ⟨c, rest, same, .inl digit⟩

theorem Unsigned.noSign {negative : Bool} {c : Char} {s : List Char} {x : Extended}
    (unsigned : Unsigned negative (c :: s) x) : c ≠ '-' ∧ c ≠ '+' := by
  obtain ⟨_, _, ⟨⟩, start⟩ := unsigned.head
  constructor <;> rintro rfl <;> exact absurd start (by decide)

theorem read?_iff {s : String} {x : Extended} : read? s = some x ↔ Typed s.toList x := by
  unfold read?
  split
  · next rest typed =>
    rw [typed, unsigned?_iff]
    constructor
    · exact .minus
    · intro typed
      cases typed with
      | minus unsigned => exact unsigned
      | plain unsigned => exact absurd rfl unsigned.noSign.1
  · next rest typed =>
    rw [typed, unsigned?_iff]
    constructor
    · exact .plus
    · intro typed
      cases typed with
      | plus unsigned => exact unsigned
      | plain unsigned => exact absurd rfl unsigned.noSign.2
  · next noMinus noPlus =>
    rw [unsigned?_iff]
    constructor
    · exact .plain
    · intro typed
      generalize s.toList = typed' at typed noMinus noPlus
      cases typed with
      | plain unsigned => exact unsigned
      | plus unsigned => exact absurd rfl (noPlus _)
      | minus unsigned => exact absurd rfl (noMinus _)

end Extended

theorem Whole.typed {s : List Char} {n : Int} (whole : Whole s n) : ∃ x, Extended.Typed s x := by
  have decimal {ds : List Char} (digits : Digits ds) : Extended.Decimal ds (Nat.ofDigitChars 10 ds 0) 0 := by
    have decimal := Extended.Decimal.whole digits .none
    rwa [List.append_nil] at decimal
  cases whole with
  | plain digits => exact ⟨_, .plain (.decimal (decimal digits))⟩
  | plus digits => exact ⟨_, .plus (.decimal (decimal digits))⟩
  | minus digits => exact ⟨_, .minus (.decimal (decimal digits))⟩

end ParishSite.Number
