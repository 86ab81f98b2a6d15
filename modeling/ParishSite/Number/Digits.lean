/-! Texts of ASCII digits, and the numbers that they stand for. A text of digits is the one in which its
number is written out, unless zeros stand before its other digits. -/

namespace ParishSite.Number

/-- One digit or more. -/
structure Digits (ds : List Char) : Prop where
  filled : ds ≠ []
  all : ∀ c ∈ ds, c.isDigit = true

/-- No zero stands before another digit. -/
def Unpadded (ds : List Char) : Prop := ∀ d rest, d.isDigit = true → ds ≠ '0' :: d :: rest

/-- Digits with an optional sign before them, and their number. -/
inductive Whole : List Char → Int → Prop
  | plain {ds} (digits : Digits ds) : Whole ds (Nat.ofDigitChars 10 ds 0)
  | plus {ds} (digits : Digits ds) : Whole ('+' :: ds) (Nat.ofDigitChars 10 ds 0)
  | minus {ds} (digits : Digits ds) : Whole ('-' :: ds) (-Nat.ofDigitChars 10 ds 0)

theorem each_char {ds : List Char} {p : Char → Prop} [DecidablePred p] (all : ds.all (p ·) = true) :
    ∀ c ∈ ds, p c :=
  fun c member => of_decide_eq_true (List.all_eq_true.mp all c member)

theorem not_digits_cons {c : Char} (other : c.isDigit = false) (ds : List Char) : ¬ Digits (c :: ds) := by
  intro digits
  have digit := digits.all c List.mem_cons_self
  rw [other] at digit
  cases digit

theorem whole_minus {ds : List Char} {n : Int} :
    Whole ('-' :: ds) n ↔ Digits ds ∧ n = -Nat.ofDigitChars 10 ds 0 := by
  constructor
  · intro whole
    cases whole with
    | plain digits => exact absurd digits (not_digits_cons (by decide) ds)
    | minus digits => exact ⟨digits, rfl⟩
  · rintro ⟨digits, rfl⟩
    exact .minus digits

theorem whole_plus {ds : List Char} {n : Int} :
    Whole ('+' :: ds) n ↔ Digits ds ∧ n = Nat.ofDigitChars 10 ds 0 := by
  constructor
  · intro whole
    cases whole with
    | plain digits => exact absurd digits (not_digits_cons (by decide) ds)
    | plus digits => exact ⟨digits, rfl⟩
  · rintro ⟨digits, rfl⟩
    exact .plus digits

theorem whole_plain {s : List Char} {n : Int} (noMinus : ∀ ds, s ≠ '-' :: ds)
    (noPlus : ∀ ds, s ≠ '+' :: ds) : Whole s n ↔ Digits s ∧ n = Nat.ofDigitChars 10 s 0 := by
  constructor
  · intro whole
    cases whole with
    | plain digits => exact ⟨digits, rfl⟩
    | plus => exact absurd rfl (noPlus _)
    | minus => exact absurd rfl (noMinus _)
  · rintro ⟨digits, rfl⟩
    exact .plain digits

theorem digit_range {c : Char} (digit : c.isDigit = true) : 48 ≤ c.toNat ∧ c.toNat ≤ 57 := by
  simpa [Char.isDigit, UInt32.le_iff_toNat_le] using digit

theorem between_isDigit (c : Char) : (decide ('0' ≤ c) && decide (c ≤ '9')) = c.isDigit := by
  simp only [Char.isDigit, Char.le_def, ge_iff_le]

theorem foldl_value (ds : List Char) :
    ds.foldl (fun n c => n * 10 + (c.toNat - 48)) 0 = Nat.ofDigitChars 10 ds 0 := by
  simp only [Nat.ofDigitChars_eq_foldl, Nat.mul_comm 10]
  rfl

theorem value_cons (c : Char) (ds : List Char) :
    Nat.ofDigitChars 10 (c :: ds) 0 =
      Nat.pow 10 ds.length * (c.toNat - 48) + Nat.ofDigitChars 10 ds 0 := by
  rw [Nat.ofDigitChars_cons, Nat.ofDigitChars_eq_ofDigitChars_zero, Nat.mul_zero, Nat.zero_add]
  rfl

theorem value_lt {ds : List Char} (all : ∀ c ∈ ds, c.isDigit = true) :
    Nat.ofDigitChars 10 ds 0 < Nat.pow 10 ds.length := by
  induction ds with
  | nil => decide
  | cons c ds ih =>
    have range := digit_range (all c List.mem_cons_self)
    have less := ih fun d member => all d (List.mem_cons_of_mem _ member)
    have first : Nat.pow 10 ds.length * (c.toNat - 48) ≤ Nat.pow 10 ds.length * 9 :=
      Nat.mul_le_mul_left _ (by omega)
    have tens : Nat.pow 10 (ds.length + 1) = Nat.pow 10 ds.length * 10 := rfl
    rw [value_cons, List.length_cons, tens]
    omega

/-- Texts of as many digits each are told apart by their values. -/
theorem eq_of_value {ds es : List Char} (all : ∀ c ∈ ds, c.isDigit = true)
    (all' : ∀ c ∈ es, c.isDigit = true) (length : ds.length = es.length)
    (value : Nat.ofDigitChars 10 ds 0 = Nat.ofDigitChars 10 es 0) : ds = es := by
  induction ds generalizing es with
  | nil => exact (List.length_eq_zero_iff.mp length.symm).symm
  | cons c ds ih =>
    obtain ⟨e, es, rfl⟩ := List.exists_cons_of_length_eq_add_one length.symm
    have lengths : ds.length = es.length := Nat.succ.inj length
    have all := List.forall_mem_cons.mp all
    have all' := List.forall_mem_cons.mp all'
    have less := value_lt all.2
    have less' := value_lt all'.2
    rw [← lengths] at less'
    rw [value_cons, value_cons, ← lengths] at value
    have first : c.toNat - 48 = e.toNat - 48 := by
      have positive : 0 < Nat.pow 10 ds.length := Nat.pow_pos (by decide)
      have quotient := congrArg (· / Nat.pow 10 ds.length) value
      simpa only [Nat.mul_add_div positive, Nat.div_eq_of_lt less, Nat.div_eq_of_lt less',
        Nat.add_zero] using quotient
    rw [first, Nat.add_left_cancel_iff] at value
    have range := digit_range all.1
    have range' := digit_range all'.1
    have same : c = e := by
      apply Char.toNat_inj.mp
      omega
    rw [same, ih all.2 all'.2 lengths value]

/-- Zeros before a text do not count. -/
theorem value_dropZeros (ds : List Char) :
    Nat.ofDigitChars 10 (ds.dropWhile (· = '0')) 0 = Nat.ofDigitChars 10 ds 0 := by
  induction ds with
  | nil => rfl
  | cons c ds ih =>
    by_cases zero : c = '0'
    · subst zero
      rw [List.dropWhile_cons_of_pos (by decide), ih, value_cons]
      simp
    · rw [List.dropWhile_cons_of_neg (by simpa using zero)]

/-- The first digit decides how large a number is, unless it is zero. -/
theorem le_value {c : Char} (digit : c.isDigit = true) (nonzero : c ≠ '0') (ds : List Char) :
    Nat.pow 10 ds.length ≤ Nat.ofDigitChars 10 (c :: ds) 0 := by
  have range := digit_range digit
  have other : c.toNat ≠ 48 := fun same => nonzero (Char.toNat_inj.mp same)
  rw [value_cons]
  exact Nat.le_add_right_of_le (Nat.le_mul_of_pos_right _ (by omega))

theorem toDigits_head {n : Nat} (positive : 0 < n) :
    ∃ d ds, Nat.toDigits 10 n = d :: ds ∧ d ≠ '0' := by
  induction n using Nat.strongRecOn with
  | ind n ih =>
    by_cases small : n < 10
    · refine ⟨_, [], Nat.toDigits_of_lt_base small, ?_⟩
      have nonzero : ∀ k < 10, 0 < k → Nat.digitChar k ≠ '0' := by decide
      exact nonzero n small positive
    · have large : 10 ≤ n := Nat.not_lt.mp small
      obtain ⟨d, ds, digits, nonzero⟩ := ih (n / 10) (by omega) (by omega)
      refine ⟨d, ds ++ [(n % 10).digitChar], ?_, nonzero⟩
      rw [Nat.toDigits_of_base_le (by decide) large, digits, List.cons_append]

theorem toDigits_isDigit (n : Nat) : ∀ c ∈ Nat.toDigits 10 n, c.isDigit = true :=
  fun _ member => Nat.isDigit_of_mem_toDigits (by decide) (by decide) member

theorem toDigits_unpadded (n : Nat) : Unpadded (Nat.toDigits 10 n) := by
  intro d rest _ same
  rcases Nat.eq_zero_or_pos n with rfl | positive
  · cases same
  · obtain ⟨c, ds, written, nonzero⟩ := toDigits_head positive
    rw [same] at written
    cases written
    exact nonzero rfl

theorem toDigits_value {ds : List Char} (digits : Digits ds) (unpadded : Unpadded ds) :
    Nat.toDigits 10 (Nat.ofDigitChars 10 ds 0) = ds := by
  obtain ⟨filled, all⟩ := digits
  refine eq_of_value (toDigits_isDigit _) all (Nat.le_antisymm ?most ?least) Nat.ofDigitChars_ten_toDigits
  case most =>
    exact (Nat.length_toDigits_le_iff (by decide) (List.length_pos_iff.mpr filled)).mpr (value_lt all)
  case least =>
    rcases ds with _ | ⟨c, _ | ⟨d, rest⟩⟩
    · exact absurd rfl filled
    · exact Nat.length_toDigits_pos
    · have nonzero : c ≠ '0' := by
        rintro rfl
        exact unpadded d rest (all d (by simp)) rfl
      have large := le_value (all c List.mem_cons_self) nonzero (d :: rest)
      refine Nat.not_lt.mp fun short => absurd large (Nat.not_le.mpr ?_)
      exact (Nat.length_toDigits_le_iff (by decide) (by simp)).mp (Nat.le_of_lt_succ short)

end ParishSite.Number
