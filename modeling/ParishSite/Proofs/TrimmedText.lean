import Mathlib.Data.List.DropRight
import ParishSite.Content.BelieversClass
import ParishSite.Content.Slug

/-! Texts without white space at their ends: those that were trimmed, and those that hold none at all,
such as dates, times and keys. -/

namespace ParishSite

namespace Text

private theorem trimStart_trim (s : List Char) : trimStart (trim s) = trim s := by
  have inside : trim s <+: trimStart s := List.rdropWhile_prefix _ _
  have first := List.head?_dropWhile_not isBlank s
  cases whole : trim s with
  | nil => rfl
  | cons c rest =>
    obtain ⟨behind, cut⟩ := whole ▸ inside
    rw [trimStart] at cut
    rw [← cut] at first
    exact List.dropWhile_cons_of_neg (by rw [first]; exact Bool.false_ne_true)

theorem trim_trim (s : List Char) : trim (trim s) = trim s := by
  rw [trim, trimStart_trim]
  exact List.rdropWhile_idempotent isBlank (trimStart s)

theorem trimmed_trimmed (s : String) : trimmed (trimmed s) = trimmed s := by
  rw [trimmed, trimmed, String.toList_ofList, trim_trim]

theorem length_trimmed (s : String) : (trimmed s).length = trimmedLength s := by
  rw [trimmed, String.length_ofList, trimmedLength]

/-- A text that holds no white space at all. -/
def Unbroken (s : List Char) : Prop := ∀ c ∈ s, isBlank c = false

theorem Unbroken.of_all {s : List Char} (all : s.all (fun c => !isBlank c) = true) : Unbroken s := by
  intro c member
  exact (Bool.not_eq_true' _).mp (List.all_eq_true.mp all c member)

theorem Unbroken.append {s t : List Char} (first : Unbroken s) (rest : Unbroken t) :
    Unbroken (s ++ t) := by
  intro c member
  rcases List.mem_append.mp member with member | member
  · exact first c member
  · exact rest c member

theorem Unbroken.cons {c : Char} {s : List Char} (first : isBlank c = false) (rest : Unbroken s) :
    Unbroken (c :: s) := by
  intro d member
  rcases List.mem_cons.mp member with rfl | member
  · exact first
  · exact rest d member

theorem Unbroken.subset {s t : List Char} (unbroken : Unbroken s) (inside : t ⊆ s) : Unbroken t :=
  fun c member => unbroken c (inside member)

theorem Unbroken.trim {s : List Char} (unbroken : Unbroken s) : trim s = s := by
  have start : trimStart s = s := by
    cases s with
    | nil => rfl
    | cons c rest =>
      apply List.dropWhile_cons_of_neg
      rw [unbroken c List.mem_cons_self]
      exact Bool.false_ne_true
  rw [Text.trim, start]
  apply List.rdropWhile_eq_self_iff.mpr
  intro filled
  rw [unbroken _ (List.getLast_mem filled)]
  exact Bool.false_ne_true

theorem Unbroken.trimmed {s : List Char} (unbroken : Unbroken s) :
    Text.trimmed (String.ofList s) = String.ofList s := by
  rw [Text.trimmed, String.toList_ofList, unbroken.trim]

theorem isBlank_visible {c : Char} (least : 33 ≤ c.toNat) (most : c.toNat ≤ 126) :
    isBlank c = false := by
  simp only [isBlank, Bool.or_eq_false_iff, Bool.and_eq_false_iff, decide_eq_false_iff_not,
    beq_eq_false_iff_ne]
  omega

theorem isBlank_digit {c : Char} (digit : c.isDigit = true) : isBlank c = false := by
  have range : 48 ≤ c.toNat ∧ c.toNat ≤ 57 := by
    simpa [Char.isDigit, UInt32.le_iff_toNat_le] using digit
  exact isBlank_visible (by omega) (by omega)

end Text

open Text

namespace Time.Rfc3339

theorem padded_unbroken (width n : Nat) : Unbroken (padded width n) := by
  apply Unbroken.append
  · intro c member
    rw [List.eq_of_mem_replicate member]
    rfl
  · intro c member
    exact isBlank_digit (Nat.isDigit_of_mem_toDigits (by decide) (by decide) member)

theorem yearText_unbroken (year : Int) : Unbroken (yearText year) := by
  unfold yearText
  split
  · exact padded_unbroken _ _
  · refine .cons ?_ (padded_unbroken _ _)
    split <;> rfl

theorem fractionText_unbroken (nanos : Nat) : Unbroken (fractionText nanos) := by
  unfold fractionText
  split
  · exact fun c member => absurd member List.not_mem_nil
  split
  · exact .cons rfl (padded_unbroken _ _)
  split <;> exact .cons rfl (padded_unbroken _ _)

/-- A time is written without white space, whatever the mark of the zone is. -/
theorem write_trimmed {zone : String} (mark : Unbroken zone.toList) (t : Instant) :
    Text.trimmed (write zone t) = write zone t := by
  have day : Unbroken (dayText t.date) :=
    ((yearText_unbroken _).append (.cons rfl (padded_unbroken _ _))).append
      (.cons rfl (padded_unbroken _ _))
  have clock : Unbroken (clockText t) :=
    (((padded_unbroken _ _).append (.cons rfl (padded_unbroken _ _))).append
      (.cons rfl (padded_unbroken _ _))).append (fractionText_unbroken _)
  exact ((day.append (.cons rfl clock)).append mark).trimmed

theorem writeZ_trimmed (t : Instant) : Text.trimmed (writeZ t) = writeZ t :=
  write_trimmed (fun c member => by rw [List.mem_singleton.mp member]; rfl) t

end Time.Rfc3339

namespace StartsLabel

theorem dayFirst_unbroken (d : Time.Date) : Unbroken (dayFirst d) :=
  ((Time.Rfc3339.padded_unbroken _ _).append (.cons rfl (Time.Rfc3339.padded_unbroken _ _))).append
    (.cons rfl (Time.Rfc3339.yearText_unbroken _))

theorem normalized_trimmed (label : String) : Text.trimmed (normalized label) = normalized label := by
  unfold normalized
  dsimp only
  cases date? (trim label.toList) with
  | none => exact trimmed_trimmed label
  | some d =>
    rw [Option.elim_some]
    exact (dayFirst_unbroken d).trimmed

end StartsLabel

namespace Slug

theorem slugChar_range {c : Char} (letter : isSlugChar c = true) :
    97 ≤ c.toNat ∧ c.toNat ≤ 122 ∨ 48 ≤ c.toNat ∧ c.toNat ≤ 57 := by
  simpa [isSlugChar, Char.le_def, UInt32.le_iff_toNat_le] using letter

private theorem isBlank_slugChar {c : Char} (letter : isSlugChar c = true) : isBlank c = false := by
  have range := slugChar_range letter
  exact isBlank_visible (by omega) (by omega)

theorem hyphenated_unbroken (inRun : Bool) (s : List Char) : Unbroken (hyphenated inRun s) := by
  induction s generalizing inRun with
  | nil => exact fun c member => absurd member List.not_mem_nil
  | cons c s ih =>
    rw [hyphenated]
    split
    · next letter => exact .cons (isBlank_slugChar letter) (ih false)
    split
    · exact ih true
    · exact .cons rfl (ih true)

theorem ofChars_unbroken (s : List Char) : Unbroken (ofChars s) := by
  apply (hyphenated_unbroken false (lower (trim s))).subset
  intro c member
  have kept := List.mem_of_mem_take member
  have back := (List.rdropWhile_prefix (· = '-') _).subset kept
  exact (List.dropWhile_suffix _).subset back

end Slug

theorem KeySuffix.char_unbroken : ∀ draw : Fin 36, isBlank (KeySuffix.char draw) = false := by decide

/-- A key holds no white space, if its fallback holds none. -/
theorem keyFor_trimmed (label : String) {fallback : String} (plain : Unbroken fallback.toList)
    (suffix : KeySuffix) : Text.trimmed (keyFor label fallback suffix) = keyFor label fallback suffix := by
  have drawn : Unbroken suffix.chars := by
    intro c member
    obtain ⟨draw, -, rfl⟩ := List.mem_map.mp member
    exact KeySuffix.char_unbroken draw
  have base : Unbroken (if slug label = "" then fallback else slug label).toList := by
    split
    · exact plain
    · rw [slug, String.toList_ofList]
      exact Slug.ofChars_unbroken _
  have whole : Unbroken (keyFor label fallback suffix).toList := by
    rw [keyFor, String.toList_append, String.toList_append]
    refine (base.append ?_).append ?_
    · exact fun c member => by rw [List.mem_singleton.mp member]; rfl
    · rw [String.toList_ofList]
      exact drawn
  have trimmed := whole.trimmed
  rwa [String.ofList_toList] at trimmed

end ParishSite
