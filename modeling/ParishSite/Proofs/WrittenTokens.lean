import Mathlib.Data.List.Forall2
import ParishSite.Json.Node
import ParishSite.Json.Printer
import ParishSite.Number.Digits

/-! The strings and whole numbers of written JSON text are read as what was written, whatever follows
them. Every character of a string is written as one piece, and no digit follows a number. -/

namespace ParishSite.Json

open Number (toDigits_head toDigits_isDigit)
open Text.Utf8 (Symbol ofChars)

theorem ofChars_append (s t : List Char) : ofChars (s ++ t) = ofChars s ++ ofChars t :=
  List.map_append

theorem ofChars_cons (c : Char) (s : List Char) : ofChars (c :: s) = some c :: ofChars s := rfl

/-- A piece of a string that is read as a character: the character itself, or its number. -/
def Piece.Means (p : Piece) (c : Char) : Prop :=
  p = .symbol (some c) ∨ p = .unit c.toNat ∧ c.toNat < 32

theorem hexDigit?_digitChar : ∀ n < 16, hexDigit? (some (Nat.digitChar n)) = some n := by decide

def Piece.before (p : Piece) (read : List Piece × StringEnd) : List Piece × StringEnd :=
  (p :: read.1, read.2)

/-- A backslash and one letter stand for a character. -/
theorem stringBody_letter {letter : Char} (c : Char) (named : escaped? (some letter) = some c)
    (other : letter ≠ 'u') (rest : List Symbol) :
    stringBody (some '\\' :: some letter :: rest) = Piece.before (.symbol (some c)) (stringBody rest) := by
  have notUnit : (some letter : Symbol) ≠ some 'u' := fun same => other (Option.some.inj same)
  rw [stringBody.eq_def]
  simp only [if_neg notUnit, named]
  rfl

/-- A control character stands as its number in four hexadecimal digits. -/
theorem stringBody_unit {n : Nat} (small : n < 32) (rest : List Symbol) :
    stringBody (ofChars ('\\' :: 'u' :: ['0', '0', Nat.digitChar (n / 16), Nat.digitChar (n % 16)]) ++
      rest) = Piece.before (.unit n) (stringBody rest) := by
  have zero : hexDigit? (some '0') = some 0 := by decide
  have high := hexDigit?_digitChar (n / 16) (by omega)
  have low := hexDigit?_digitChar (n % 16) (by omega)
  have whole : ((0 * 16 + 0) * 16 + n / 16) * 16 + n % 16 = n := by omega
  simp only [ofChars_cons, List.cons_append]
  rw [stringBody, if_neg (by decide), if_pos rfl]
  simp only [if_true, zero, high, low, whole]
  rfl

theorem stringBody_plain {c : Char} (noQuote : c ≠ '"') (noBackslash : c ≠ '\\')
    (plain : ¬ c.toNat < 32) (rest : List Symbol) :
    stringBody (some c :: rest) = Piece.before (.symbol (some c)) (stringBody rest) := by
  rw [stringBody.eq_def]
  simp only [if_neg noQuote, if_neg noBackslash, if_neg plain]
  rfl

theorem stringBody_quote (rest : List Symbol) : stringBody (some '"' :: rest) = ([], .closed rest) := by
  rw [stringBody.eq_def]
  rfl

theorem stringBody_escapeChar (c : Char) (rest : List Symbol) :
    ∃ p : Piece, p.Means c ∧
      stringBody (ofChars (escapeChar c) ++ rest) = Piece.before p (stringBody rest) := by
  have letter {l : Char} (named : escaped? (some l) = some c) (other : l ≠ 'u') :
      ∃ p : Piece, p.Means c ∧
        stringBody (ofChars ['\\', l] ++ rest) = Piece.before p (stringBody rest) :=
    ⟨_, .inl rfl, stringBody_letter c named other rest⟩
  unfold escapeChar
  split
  · next same => exact letter (by subst same; decide) (by decide)
  next noQuote =>
  split
  · next same => exact letter (by subst same; decide) (by decide)
  next noBackslash =>
  split
  · next same => exact letter (by subst same; decide) (by decide)
  split
  · next same => exact letter (by subst same; decide) (by decide)
  split
  · next same => exact letter (by subst same; decide) (by decide)
  split
  · next same => exact letter (by rw [← Char.ofNat_toNat c, same]; decide) (by decide)
  split
  · next same => exact letter (by rw [← Char.ofNat_toNat c, same]; decide) (by decide)
  split
  · next control => exact ⟨_, .inr ⟨rfl, control⟩, stringBody_unit control rest⟩
  · next plain => exact ⟨_, .inl rfl, stringBody_plain noQuote noBackslash plain rest⟩

theorem stringBody_written (s : List Char) (rest : List Symbol) :
    ∃ pieces, List.Forall₂ Piece.Means pieces s ∧
      stringBody (ofChars (s.flatMap escapeChar) ++ some '"' :: rest) = (pieces, .closed rest) := by
  induction s with
  | nil => exact ⟨[], .nil, stringBody_quote rest⟩
  | cons c s ih =>
    obtain ⟨pieces, means, read⟩ := ih
    obtain ⟨p, first, step⟩ :=
      stringBody_escapeChar c (ofChars (s.flatMap escapeChar) ++ some '"' :: rest)
    refine ⟨p :: pieces, .cons first means, ?_⟩
    rw [List.flatMap_cons, ofChars_append, List.append_assoc, step, read]
    rfl

theorem paired_means {pieces : List Piece} {s : List Char} (means : List.Forall₂ Piece.Means pieces s)
    (rest : List Symbol) : paired pieces (.closed rest) = .ok (ofChars s) := by
  induction means with
  | nil => rfl
  | @cons p c pieces s first means ih =>
    rcases first with rfl | ⟨rfl, control⟩
    · rw [paired, ih]
      rfl
    · rw [paired.eq_def]
      simp only
      rw [if_neg (by omega), if_neg (by omega), ih, Char.ofNat_toNat]
      rfl

theorem mapM_ofChars (s : List Char) : (ofChars s).mapM id = some s := by
  induction s with
  | nil => rfl
  | cons c s ih =>
    rw [ofChars_cons, List.mapM_cons, ih]
    rfl

theorem stringText_means {pieces : List Piece} {s : List Char}
    (means : List.Forall₂ Piece.Means pieces s) (rest : List Symbol) :
    stringText pieces (.closed rest) = .ok (String.ofList s) := by
  rw [stringText, paired_means means rest]
  simp only [Bind.bind, Except.bind, mapM_ofChars]

/-- What follows the opening quote of a written string. -/
theorem stringBody_renderText (s : String) (rest : List Symbol) :
    ∃ pieces, stringBody (ofChars (s.toList.flatMap escapeChar) ++ some '"' :: rest) =
        (pieces, .closed rest) ∧ stringText pieces (.closed rest) = .ok s := by
  obtain ⟨pieces, means, read⟩ := stringBody_written s.toList rest
  refine ⟨pieces, read, ?_⟩
  rw [stringText_means means, String.ofList_toList]

theorem ofChars_renderText (s : String) (rest : List Symbol) :
    ofChars (renderText s) ++ rest =
      some '"' :: (ofChars (s.toList.flatMap escapeChar) ++ some '"' :: rest) := by
  rw [renderText, List.cons_append, ofChars_cons, ofChars_append, List.cons_append,
    List.append_assoc]
  rfl

theorem stringNode_written (s : String) (rest : List Symbol) :
    stringNode (ofChars (s.toList.flatMap escapeChar) ++ some '"' :: rest) =
      (.str (.ok s), some rest) := by
  obtain ⟨pieces, read, text⟩ := stringBody_renderText s rest
  rw [stringNode, read]
  simp only [text]
  rfl

/-- After a value that stands in written text comes nothing, a comma or a closing bracket. -/
def Closes : List Symbol → Prop
  | [] => True
  | s :: _ => s = some ',' ∨ s = some ']' ∨ s = some '\x7d'

theorem digit?_digit {c : Char} (digit : c.isDigit = true) : digit? (some c) = some (c.toNat - 48) := by
  have range : '0' ≤ c ∧ c ≤ '9' := by
    simpa [Char.isDigit, Char.le_def, UInt32.le_iff_toNat_le] using digit
  rw [digit?, if_pos range]

theorem digitRun_closes {rest : List Symbol} (closes : Closes rest) : digitRun rest = ([], rest) := by
  cases rest with
  | nil => rfl
  | cons s rest => rcases closes with rfl | rfl | rfl <;> rfl

def digitValues (ds : List Char) : List Nat := ds.map fun c => c.toNat - 48

theorem digitRun_append {ds : List Char} (all : ∀ c ∈ ds, c.isDigit = true) {rest : List Symbol}
    (closes : Closes rest) : digitRun (ofChars ds ++ rest) = (digitValues ds, rest) := by
  induction ds with
  | nil => exact digitRun_closes closes
  | cons d ds ih =>
    have later := ih fun c member => all c (List.mem_cons_of_mem d member)
    rw [ofChars_cons, List.cons_append, digitRun]
    simp only [digit?_digit (all d List.mem_cons_self), later]
    rfl

theorem wholePart_toDigits (n : Nat) {rest : List Symbol} (closes : Closes rest) :
    wholePart (ofChars (Nat.toDigits 10 n) ++ rest) = .ok (digitValues (Nat.toDigits 10 n), rest) := by
  have run := digitRun_append (toDigits_isDigit n) closes
  by_cases positive : 0 < n
  · obtain ⟨d, ds, digits, nonzero⟩ := toDigits_head positive
    have digit := toDigits_isDigit n d (by rw [digits]; exact List.mem_cons_self)
    have range : 48 ≤ d.toNat ∧ d.toNat ≤ 57 := by
      simpa [Char.isDigit, UInt32.le_iff_toNat_le] using digit
    have other : d.toNat ≠ 48 := fun same => nonzero (Char.toNat_inj.mp same)
    obtain ⟨k, value⟩ : ∃ k, d.toNat - 48 = k + 1 := ⟨d.toNat - 49, by omega⟩
    have values : digitValues (Nat.toDigits 10 n) = (k + 1) :: digitValues ds := by
      rw [digits, ← value]
      rfl
    rw [values] at run ⊢
    rw [wholePart, neededDigits, run]
    rfl
  · have zero : n = 0 := by omega
    subst zero
    rw [wholePart, neededDigits, run]
    rfl

theorem fractionPart_closes {rest : List Symbol} (closes : Closes rest) :
    fractionPart rest = .ok ([], rest) := by
  cases rest with
  | nil => rfl
  | cons s rest => rcases closes with rfl | rfl | rfl <;> rfl

theorem powerPart_closes {rest : List Symbol} (closes : Closes rest) :
    powerPart rest = .ok (none, rest) := by
  cases rest with
  | nil => rfl
  | cons s rest => rcases closes with rfl | rfl | rfl <;> rfl

/-- Digits without a sign are a number that is not negative. -/
theorem lexeme_toDigits (n : Nat) {rest : List Symbol} (closes : Closes rest) :
    lexeme (ofChars (Nat.toDigits 10 n) ++ rest) =
      .ok (⟨false, digitValues (Nat.toDigits 10 n), [], none⟩, rest) := by
  rw [lexeme, wholePart_toDigits n closes]
  · simp only [Bind.bind, Except.bind, fractionPart_closes closes, powerPart_closes closes]
  · intro text signed
    cases digits : Nat.toDigits 10 n with
    | nil => exact Nat.toDigits_ne_nil digits
    | cons d ds =>
      rw [digits, ofChars_cons, List.cons_append] at signed
      have minus : d = '-' := Option.some.inj (List.cons.inj signed).1
      have digit := toDigits_isDigit n d (by rw [digits]; exact List.mem_cons_self)
      rw [minus] at digit
      cases digit

theorem lexeme_minus (n : Nat) {rest : List Symbol} (closes : Closes rest) :
    lexeme (ofChars ('-' :: Nat.toDigits 10 n) ++ rest) =
      .ok (⟨true, digitValues (Nat.toDigits 10 n), [], none⟩, rest) := by
  rw [ofChars_cons, List.cons_append, lexeme, wholePart_toDigits n closes]
  simp only [Bind.bind, Except.bind, fractionPart_closes closes, powerPart_closes closes]

namespace Lexeme

theorem le_foldl (ds : List Nat) (n : Nat) : n ≤ ds.foldl (fun n d => n * 10 + d) n := by
  induction ds generalizing n with
  | nil => exact Nat.le_refl n
  | cons d ds ih => exact Nat.le_trans (by omega) (ih (n * 10 + d))

/-- All digits of a number that fits are taken. -/
theorem gather_fits {ds : List Nat} {n : Nat} (fits : ds.foldl (fun n d => n * 10 + d) n < limit) :
    gather n ds = (ds.foldl (fun n d => n * 10 + d) n, 0) := by
  induction ds generalizing n with
  | nil => rfl
  | cons d ds ih =>
    have next : n * 10 + d < limit := Nat.lt_of_le_of_lt (le_foldl ds _) fits
    rw [gather, if_pos next]
    exact ih fits

theorem foldl_digitValues (ds : List Char) (n : Nat) :
    (digitValues ds).foldl (fun n d => n * 10 + d) n = Nat.ofDigitChars 10 ds n := by
  rw [digitValues, List.foldl_map, Nat.ofDigitChars_eq_foldl]
  congr 1
  funext m c
  rw [Nat.mul_comm 10]
  rfl

theorem gather_toDigits {n : Nat} (fits : n < limit) :
    gather 0 (digitValues (Nat.toDigits 10 n)) = (n, 0) := by
  have value : (digitValues (Nat.toDigits 10 n)).foldl (fun n d => n * 10 + d) 0 = n := by
    rw [foldl_digitValues, Nat.ofDigitChars_ten_toDigits]
  have taken := gather_fits (value.symm ▸ fits)
  rwa [value] at taken

theorem value_toDigits {n : Nat} (fits : n < limit) :
    value ⟨false, digitValues (Nat.toDigits 10 n), [], none⟩ = .ok (.int n) := by
  rw [value, gather_toDigits fits]
  rfl

theorem value_minus {n : Nat} (positive : 0 < n) (fits : n ≤ 9223372036854775808) :
    value ⟨true, digitValues (Nat.toDigits 10 n), [], none⟩ = .ok (.int (-(n : Int))) := by
  have small : n < limit := Nat.lt_of_le_of_lt fits (by decide)
  have inside : (decide (0 < n) && decide (n ≤ Nat.pow 2 63)) = true := by
    rw [decide_eq_true positive, decide_eq_true fits]
    rfl
  rw [value, gather_toDigits small]
  simp only [inside, if_true]
  rfl

end Lexeme

/-- An integer of 64 bits, with or without a sign. -/
def FitsWord (n : Int) : Prop := -9223372036854775808 ≤ n ∧ n < 18446744073709551616

theorem toList_toString (n : Int) :
    (toString n).toList =
      if n < 0 then '-' :: Nat.toDigits 10 n.natAbs else Nat.toDigits 10 n.natAbs := by
  cases n with
  | ofNat n =>
    change (Nat.repr n).toList = _
    rw [Nat.repr_eq_ofList_toDigits, String.toList_ofList]
    exact (if_neg (Int.not_lt.mpr (Int.natCast_nonneg n))).symm
  | negSucc n =>
    change ("-" ++ Nat.repr (n + 1)).toList = _
    simp only [if_pos (Int.negSucc_lt_zero n), String.toList_append, Nat.repr_eq_ofList_toDigits,
      String.toList_ofList]
    rfl

theorem numberNode_toString {n : Int} (fits : FitsWord n) {rest : List Symbol} (closes : Closes rest) :
    numberNode (ofChars (toString n).toList ++ rest) = (.number (.ok (.int n)), some rest) := by
  obtain ⟨low, high⟩ := fits
  rw [toList_toString]
  by_cases negative : n < 0
  · have positive : 0 < n.natAbs := by omega
    have least : n.natAbs ≤ 9223372036854775808 := by omega
    have same : (-(n.natAbs : Int)) = n := by omega
    rw [if_pos negative, numberNode, lexeme_minus n.natAbs closes]
    simp only [Lexeme.value_minus positive least, same]
  · have small : n.natAbs < Lexeme.limit := by
      change n.natAbs < 18446744073709551616
      omega
    have same : (n.natAbs : Int) = n := by omega
    rw [if_neg negative, numberNode, lexeme_toDigits n.natAbs closes]
    simp only [Lexeme.value_toDigits small, same]

end ParishSite.Json
