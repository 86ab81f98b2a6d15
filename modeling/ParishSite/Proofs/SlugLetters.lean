import Mathlib.Data.Bool.AllAny
import ParishSite.Proofs.SlugWords

/-! What is left of a text in its slug. Lower-casing leaves no capital, so that a letter or digit of ASCII
in the lowered text is a character of slugs, and no step before the cut loses such a character. A slug is
empty exactly when the lowered text holds none. -/

namespace ParishSite

open Slug (isSlugChar)

namespace Text

def HasAlphanum (s : List Char) : Prop := ∃ c ∈ s, c.isAlphanum = true

theorem mem_dropWhile_of_neg {p : Char → Bool} {c : Char} (kept : p c = false) (s : List Char) :
    c ∈ s.dropWhile p ↔ c ∈ s := by
  constructor
  · exact (List.dropWhile_sublist p).mem
  · intro member
    rw [← List.takeWhile_append_dropWhile (p := p) (l := s), List.mem_append] at member
    rcases member with dropped | member
    · rw [List.mem_takeWhile_imp dropped] at kept
      cases kept
    · exact member

theorem mem_dropWhile_both {p : Char → Bool} {c : Char} (kept : p c = false) (s : List Char) :
    c ∈ ((s.dropWhile p).reverse.dropWhile p).reverse ↔ c ∈ s := by
  rw [List.mem_reverse, mem_dropWhile_of_neg kept, List.mem_reverse, mem_dropWhile_of_neg kept]

theorem mem_trim {c : Char} (visible : isBlank c = false) (s : List Char) : c ∈ trim s ↔ c ∈ s :=
  mem_dropWhile_both visible s

theorem ofNat_toNat_or (n : Nat) : (Char.ofNat n).toNat = n ∨ (Char.ofNat n).toNat = 0 := by
  by_cases valid : n.isValidChar
  · have made : Char.ofNat n = Char.ofNatAux n valid := dif_pos valid
    rw [made]
    exact .inl rfl
  · have none : Char.ofNat n = '\x00' := dif_neg valid
    rw [none]
    exact .inr rfl

theorem isUpper_iff (c : Char) : c.isUpper = true ↔ 65 ≤ c.toNat ∧ c.toNat ≤ 90 := by
  change decide (65 ≤ c.val ∧ c.val ≤ 90) = true ↔ _
  rw [decide_eq_true_eq]
  exact and_congr UInt32.le_iff_toNat_le UInt32.le_iff_toNat_le

theorem isAlphanum_eq (c : Char) : c.isAlphanum = (c.isUpper || isSlugChar c) :=
  Bool.or_assoc _ _ _

/-- The forms in the table lie behind the capitals of ASCII. -/
theorem caseRanges_behind : ∀ r ∈ caseRanges, 90 < (r.first : Int) + r.shift := by
  decide +kernel

theorem toLower_isUpper : ∀ n < 128, (Char.ofNat n).toLower.isUpper = false := by decide +kernel

theorem lowerChar_isUpper (c : Char) : ∀ d ∈ lowerChar c, ¬ d.isUpper = true := by
  intro d member
  unfold lowerChar at member
  split at member
  next ascii =>
    have small := toLower_isUpper c.toNat ascii
    rw [Char.ofNat_toNat] at small
    rw [List.mem_singleton.mp member, small]
    exact Bool.false_ne_true
  next outside =>
  split at member
  next =>
    -- Decided along the list: there are too many characters to go through all of them.
    have dotted : ∀ d ∈ ['i', Char.ofNat 0x307], ¬ d.isUpper = true :=
      List.all_iff_forall_prop.mp (by decide)
    exact dotted d member
  next =>
  rw [isUpper_iff]
  split at member
  next r found =>
    have shifted := caseRanges_behind r (List.mem_of_find?_eq_some found)
    have holds := List.find?_some found
    simp only [Bool.and_eq_true, decide_eq_true_eq] at holds
    rw [List.mem_singleton.mp member]
    rcases ofNat_toNat_or (Int.toNat (c.toNat + r.shift)) with same | none
    · omega
    · omega
  next =>
    rw [List.mem_singleton.mp member]
    omega

theorem lowerAfter_isUpper (before s : List Char) : ∀ d ∈ lowerAfter before s, ¬ d.isUpper = true := by
  induction s generalizing before with
  | nil => exact List.forall_mem_nil _
  | cons c rest ih =>
    rw [lowerAfter]
    refine List.forall_mem_append.mpr ⟨?_, ih _⟩
    split
    · refine List.forall_mem_singleton.mpr ?_
      split <;> decide
    · exact lowerChar_isUpper c

theorem lowerChar_sigma : ∀ d ∈ lowerChar (Char.ofNat 0x3a3), isSlugChar d = false :=
  List.all_iff_forall_prop.mp (by decide +kernel)

/-- The letters and digits of a lowered text come from its characters one by one: only a sigma is lowered
by what stands around it, and it gives none either way. -/
theorem mem_lowerAfter {d : Char} (letter : isSlugChar d = true) (before s : List Char) :
    d ∈ lowerAfter before s ↔ ∃ c ∈ s, d ∈ lowerChar c := by
  induction s generalizing before with
  | nil => simp [lowerAfter]
  | cons c rest ih =>
    rw [lowerAfter, List.mem_append, ih, List.exists_mem_cons_iff]
    apply or_congr_left
    split
    next sigma =>
      have same : c = Char.ofNat 0x3a3 := by
        rw [← beq_iff_eq.mp sigma, Char.ofNat_toNat]
      apply iff_of_false
      · intro member
        rw [List.mem_singleton.mp member] at letter
        split at letter <;> exact absurd letter (by decide)
      · intro member
        rw [lowerChar_sigma d (same ▸ member)] at letter
        cases letter
    next => exact Iff.rfl

def blankPoints : List Nat :=
  [9, 10, 11, 12, 13, 0x20, 0x85, 0xa0, 0x1680, 0x2000, 0x2001, 0x2002, 0x2003, 0x2004, 0x2005, 0x2006,
    0x2007, 0x2008, 0x2009, 0x200a, 0x2028, 0x2029, 0x202f, 0x205f, 0x3000]

theorem isBlank_points {c : Char} (blank : isBlank c = true) : c.toNat ∈ blankPoints := by
  simp only [isBlank, Bool.or_eq_true, Bool.and_eq_true, decide_eq_true_eq, beq_iff_eq] at blank
  simp only [blankPoints, List.mem_cons, List.not_mem_nil, or_false]
  omega

theorem lowerChar_blank {c : Char} (blank : isBlank c = true) :
    ∀ d ∈ lowerChar c, isSlugChar d = false := by
  have checked : ∀ n ∈ blankPoints, (lowerChar (Char.ofNat n)).all (isSlugChar · = false) = true := by
    decide +kernel
  have here := checked c.toNat (isBlank_points blank)
  rw [Char.ofNat_toNat] at here
  exact List.all_iff_forall_prop.mp here

/-- White space at the ends of a text has no part in the letters of the lowered text. -/
theorem mem_lower_trim {d : Char} (letter : isSlugChar d = true) (s : List Char) :
    d ∈ lower (trim s) ↔ d ∈ lower s := by
  unfold lower
  rw [mem_lowerAfter letter, mem_lowerAfter letter]
  apply exists_congr
  intro c
  apply and_congr_left
  intro lowered
  -- What gives a letter is not blank, so it is not taken off.
  apply mem_trim
  by_contra blank
  rw [Bool.not_eq_false] at blank
  rw [lowerChar_blank blank d lowered] at letter
  cases letter

theorem hasAlphanum_lower (s : List Char) :
    HasAlphanum (lower s) ↔ ∃ d ∈ lower s, isSlugChar d = true := by
  apply exists_congr
  intro d
  apply and_congr_right
  intro member
  rw [isAlphanum_eq, Bool.or_eq_true]
  exact or_iff_right (lowerAfter_isUpper [] s d member)

end Text

namespace Slug

theorem mem_hyphenated {c : Char} (letter : isSlugChar c = true) (inRun : Bool) (s : List Char) :
    c ∈ hyphenated inRun s ↔ c ∈ s := by
  induction s generalizing inRun with
  | nil => exact Iff.rfl
  | cons first rest ih =>
    rw [hyphenated]
    split
    next => rw [List.mem_cons, List.mem_cons, ih false]
    next other =>
      have different : c ≠ first := by
        rintro rfl
        exact other letter
      rw [List.mem_cons, or_iff_right different]
      split
      · exact ih true
      · rw [List.mem_cons, or_iff_right (letter_ne_hyphen letter), ih true]

theorem mem_trimHyphens {c : Char} (letter : isSlugChar c = true) (s : List Char) :
    c ∈ trimHyphens s ↔ c ∈ s :=
  Text.mem_dropWhile_both (decide_eq_false (letter_ne_hyphen letter)) s

theorem mem_uncut {c : Char} (letter : isSlugChar c = true) (s : List Char) :
    c ∈ uncut s ↔ c ∈ Text.lower s := by
  rw [uncut, mem_trimHyphens letter, mem_hyphenated letter, Text.mem_lower_trim letter]

theorem uncut_eq_nil_iff (s : List Char) : uncut s = [] ↔ ¬ Text.HasAlphanum (Text.lower s) := by
  rw [Text.hasAlphanum_lower]
  constructor
  · rintro none ⟨c, member, letter⟩
    rw [← mem_uncut letter, none] at member
    exact List.not_mem_nil member
  · intro letterless
    rcases uncut_words s with none | words
    · exact none
    · obtain ⟨c, rest, cut, letter⟩ := words.head
      have member : c ∈ uncut s := by
        rw [cut]
        exact List.mem_cons_self
      exact absurd ⟨c, (mem_uncut letter s).mp member, letter⟩ letterless

theorem ofChars_eq_nil_iff (s : List Char) : ofChars s = [] ↔ uncut s = [] := by
  change (uncut s).take maxLength = [] ↔ _
  simp [maxLength]

end Slug

/-- A text has nothing to show in a slug when lower-casing leaves no letter and no digit of ASCII. -/
theorem slug_eq_empty_iff (v : String) :
    slug v = "" ↔ ¬ Text.HasAlphanum (Text.lower v.toList) := by
  rw [← String.toList_eq_nil_iff, slug_toList, Slug.ofChars_eq_nil_iff, Slug.uncut_eq_nil_iff]

/-- The Kelvin sign and the dotted capital I are no letters of ASCII before they are lower-cased. -/
example : slug "\u212a2 \u0130" = "k2-i" := by decide +kernel

end ParishSite
