import Mathlib.Tactic.Common
import ParishSite.Text.Utf8

/-! Reading the bytes of a text as UTF-8 gives the characters of the text back, whatever bytes
follow. The cases are the numbers of bytes that a character may take. -/

namespace ParishSite.Text.Utf8

theorem toNat_ofNat {n : Nat} (small : n < 256) : (UInt8.ofNat n).toNat = n := by
  rw [UInt8.toNat_ofNat', Nat.mod_eq_of_lt small]

/-- No character has the number of a surrogate. -/
theorem char_range (c : Char) : c.toNat < 0xd800 ∨ 0xdfff < c.toNat ∧ c.toNat < 0x110000 := c.valid

private theorem not_ascii {b : UInt8} (large : 0x80 ≤ b.toNat) : ¬ b < 0x80 := by
  rw [UInt8.lt_iff_toNat_lt]
  exact Nat.not_lt.mpr large

private theorem isTail_of_range {b : UInt8} (low : 0x80 ≤ b.toNat) (high : b.toNat < 0xc0) :
    isTail b = true := by
  simp only [isTail, Bool.and_eq_true, decide_eq_true_eq, UInt8.le_iff_toNat_le,
    UInt8.lt_iff_toNat_lt]
  exact ⟨low, high⟩

private theorem lead_two {b : UInt8} (low : 0xc2 ≤ b.toNat) (high : b.toNat < 0xe0) :
    lead? b = some ⟨1, 0x80, 0xbf, b.toNat - 0xc0⟩ := by
  unfold lead?
  rw [if_neg (by omega), if_pos high]

private theorem lead_three {b : UInt8} (low : 0xe0 ≤ b.toNat) (high : b.toNat < 0xf0) :
    ∃ l, lead? b = some l ∧ l.more = 2 ∧ l.bits = b.toNat - 0xe0 ∧
      l.low = (if b.toNat = 0xe0 then 0xa0 else 0x80) ∧
      l.high = (if b.toNat = 0xed then 0x9f else 0xbf) := by
  unfold lead?
  rw [if_neg (by omega), if_neg (by omega)]
  by_cases first : b.toNat = 0xe0
  · exact ⟨⟨2, 0xa0, 0xbf, 0⟩, by simp [first], rfl, by simp [first], by simp [first], by simp [first]⟩
  by_cases surrogate : b.toNat = 0xed
  · exact ⟨⟨2, 0x80, 0x9f, 13⟩, by simp [surrogate], rfl, by simp [surrogate], by simp [surrogate],
      by simp [surrogate]⟩
  · exact ⟨⟨2, 0x80, 0xbf, b.toNat - 0xe0⟩, by simp [first, surrogate, high], rfl, rfl,
      by simp [first], by simp [surrogate]⟩

private theorem lead_four {b : UInt8} (low : 0xf0 ≤ b.toNat) (high : b.toNat ≤ 0xf4) :
    ∃ l, lead? b = some l ∧ l.more = 3 ∧ l.bits = b.toNat - 0xf0 ∧
      l.low = (if b.toNat = 0xf0 then 0x90 else 0x80) ∧
      l.high = (if b.toNat = 0xf4 then 0x8f else 0xbf) := by
  unfold lead?
  rw [if_neg (by omega), if_neg (by omega)]
  have notThree : (b.toNat == 0xe0) = false ∧ (b.toNat == 0xed) = false := by
    constructor <;> (rw [beq_eq_false_iff_ne]; omega)
  by_cases first : b.toNat = 0xf0
  · exact ⟨⟨3, 0x90, 0xbf, 0⟩, by simp [first], rfl, by simp [first], by simp [first], by simp [first]⟩
  by_cases last : b.toNat = 0xf4
  · exact ⟨⟨3, 0x80, 0x8f, 4⟩, by simp [last], rfl, by simp [last], by simp [last], by simp [last]⟩
  · refine ⟨⟨3, 0x80, 0xbf, b.toNat - 0xf0⟩, ?_, rfl, rfl, by simp [first], by simp [last]⟩
    have large : ¬ b.toNat < 0xf0 := by omega
    have inside : b.toNat < 0xf4 := by omega
    simp [notThree, large, first, inside]

private theorem piece_next {b c : UInt8} {l : Lead} (rest : List UInt8) (large : 0x80 ≤ b.toNat)
    (found : lead? b = some l) (low : l.low.toNat ≤ c.toNat) (high : c.toNat ≤ l.high.toNat) :
    piece b (c :: rest) =
      let v₁ := l.bits * 64 + c.toNat % 64
      if l.more == 1 then (.char (Char.ofNat v₁), 2)
      else
        match rest with
        | d :: rest₂ =>
          if !isTail d then (.illFormed 2, 2)
          else
            let v₂ := v₁ * 64 + d.toNat % 64
            if l.more == 2 then (.char (Char.ofNat v₂), 3)
            else
              match rest₂ with
              | e :: _ =>
                if !isTail e then (.illFormed 3, 3)
                else (.char (Char.ofNat (v₂ * 64 + e.toNat % 64)), 4)
              | [] => (.illFormed 3, 3)
        | [] => (.illFormed 2, 2) := by
  have inside : (!(decide (l.low ≤ c) && decide (c ≤ l.high))) = false := by
    simp [UInt8.le_iff_toNat_le, low, high]
  rw [piece, if_neg (not_ascii large), found]
  exact if_neg (by rw [inside]; exact Bool.false_ne_true)

/-- The bytes of a character are read as one piece, whatever comes after them. -/
def IsPiece (c : Char) : Prop :=
  ∃ b tail, encodeChar c = b :: tail ∧
    ∀ rest, piece b (tail ++ rest) = (.char c, tail.length + 1)

private theorem one_isPiece {c : Char} (one : c.toNat < 0x80) : IsPiece c := by
  have value : (UInt8.ofNat c.toNat).toNat = c.toNat := toNat_ofNat (by omega)
  have ascii : UInt8.ofNat c.toNat < 0x80 := by
    rw [UInt8.lt_iff_toNat_lt, value]
    exact one
  refine ⟨_, [], by simp only [encodeChar, if_pos one]; rfl, ?_⟩
  intro rest
  rw [piece, if_pos ascii, value, Char.ofNat_toNat]
  rfl

private theorem two_isPiece {c : Char} (one : ¬ c.toNat < 0x80) (two : c.toNat < 0x800) :
    IsPiece c := by
  have first : (UInt8.ofNat (0xc0 + c.toNat / 64)).toNat = _ := toNat_ofNat (by omega)
  have second : (UInt8.ofNat (0x80 + c.toNat % 64)).toNat = _ := toNat_ofNat (by omega)
  refine ⟨_, _, by simp only [encodeChar, if_neg one, if_pos two]; rfl, ?_⟩
  intro rest
  have found := lead_two (b := UInt8.ofNat (0xc0 + c.toNat / 64)) (by omega) (by omega)
  rw [List.cons_append, piece_next _ (by omega) found (by change 0x80 ≤ _; omega)
    (by change _ ≤ 0xbf; omega)]
  have value : (0xc0 + c.toNat / 64 - 0xc0) * 64 + (0x80 + c.toNat % 64) % 64 = c.toNat := by omega
  simp only [first, second, value, Char.ofNat_toNat]
  rfl

private theorem three_isPiece {c : Char} (two : ¬ c.toNat < 0x800) (three : c.toNat < 0x10000) :
    IsPiece c := by
  have range := char_range c
  have one : ¬ c.toNat < 0x80 := by omega
  have first : (UInt8.ofNat (0xe0 + c.toNat / 4096)).toNat = _ := toNat_ofNat (by omega)
  have second : (UInt8.ofNat (0x80 + c.toNat / 64 % 64)).toNat = _ := toNat_ofNat (by omega)
  have third : (UInt8.ofNat (0x80 + c.toNat % 64)).toNat = _ := toNat_ofNat (by omega)
  refine ⟨_, _, by simp only [encodeChar, if_neg one, if_neg two, if_pos three]; rfl, ?_⟩
  intro rest
  obtain ⟨l, found, more, bits, low, high⟩ :=
    lead_three (b := UInt8.ofNat (0xe0 + c.toNat / 4096)) (by omega) (by omega)
  have tail : isTail (UInt8.ofNat (0x80 + c.toNat % 64)) = true := isTail_of_range (by omega) (by omega)
  rw [List.cons_append, List.cons_append, piece_next _ (by omega) found]
  · have value : ((0xe0 + c.toNat / 4096 - 0xe0) * 64 + (0x80 + c.toNat / 64 % 64) % 64) * 64 +
        (0x80 + c.toNat % 64) % 64 = c.toNat := by omega
    simp only [more, bits, first, second, third, value, tail, Char.ofNat_toNat]
    rfl
  · rw [low, first, second]
    split
    · change 0xa0 ≤ _
      omega
    · change 0x80 ≤ _
      omega
  · rw [high, first, second]
    split
    · change _ ≤ 0x9f
      omega
    · change _ ≤ 0xbf
      omega

private theorem four_isPiece {c : Char} (three : ¬ c.toNat < 0x10000) : IsPiece c := by
  have range := char_range c
  have one : ¬ c.toNat < 0x80 := by omega
  have two : ¬ c.toNat < 0x800 := by omega
  have first : (UInt8.ofNat (0xf0 + c.toNat / 262144)).toNat = _ := toNat_ofNat (by omega)
  have second : (UInt8.ofNat (0x80 + c.toNat / 4096 % 64)).toNat = _ := toNat_ofNat (by omega)
  have third : (UInt8.ofNat (0x80 + c.toNat / 64 % 64)).toNat = _ := toNat_ofNat (by omega)
  have fourth : (UInt8.ofNat (0x80 + c.toNat % 64)).toNat = _ := toNat_ofNat (by omega)
  refine ⟨_, _, by simp only [encodeChar, if_neg one, if_neg two, if_neg three]; rfl, ?_⟩
  intro rest
  obtain ⟨l, found, more, bits, low, high⟩ :=
    lead_four (b := UInt8.ofNat (0xf0 + c.toNat / 262144)) (by omega) (by omega)
  have tail₁ : isTail (UInt8.ofNat (0x80 + c.toNat / 64 % 64)) = true :=
    isTail_of_range (by omega) (by omega)
  have tail₂ : isTail (UInt8.ofNat (0x80 + c.toNat % 64)) = true :=
    isTail_of_range (by omega) (by omega)
  rw [List.cons_append, List.cons_append, List.cons_append, piece_next _ (by omega) found]
  · have value : (((0xf0 + c.toNat / 262144 - 0xf0) * 64 + (0x80 + c.toNat / 4096 % 64) % 64) * 64 +
        (0x80 + c.toNat / 64 % 64) % 64) * 64 + (0x80 + c.toNat % 64) % 64 = c.toNat := by omega
    simp only [more, bits, first, second, third, fourth, value, tail₁, tail₂, Char.ofNat_toNat]
    rfl
  · rw [low, first, second]
    split
    · change 0x90 ≤ _
      omega
    · change 0x80 ≤ _
      omega
  · rw [high, first, second]
    split
    · change _ ≤ 0x8f
      omega
    · change _ ≤ 0xbf
      omega

theorem isPiece (c : Char) : IsPiece c := by
  by_cases one : c.toNat < 0x80
  · exact one_isPiece one
  by_cases two : c.toNat < 0x800
  · exact two_isPiece one two
  by_cases three : c.toNat < 0x10000
  · exact three_isPiece two three
  · exact four_isPiece three

private theorem piecesAfter_skip (tail rest : List UInt8) :
    piecesAfter tail.length (tail ++ rest) = pieces rest := by
  induction tail with
  | nil => rfl
  | cons b tail ih => exact ih

theorem pieces_encodeChar (c : Char) (rest : List UInt8) :
    pieces (encodeChar c ++ rest) = .char c :: pieces rest := by
  obtain ⟨b, tail, bytes, read⟩ := isPiece c
  rw [bytes, List.cons_append, pieces, piecesAfter]
  simp only [read, Nat.add_sub_cancel, piecesAfter_skip]

theorem pieces_encode (s : List Char) (rest : List UInt8) :
    pieces (encode s ++ rest) = s.map .char ++ pieces rest := by
  induction s with
  | nil => rfl
  | cons c s ih =>
    have unfolded : encode (c :: s) = encodeChar c ++ encode s := List.flatMap_cons
    rw [unfolded, List.append_assoc, pieces_encodeChar, ih]
    rfl

/-- The pieces of a written text are its characters and nothing else. -/
theorem pieces_of_text (s : List Char) : pieces (encode s) = s.map .char := by
  have read := pieces_encode s []
  rw [List.append_nil] at read
  rw [read]
  exact List.append_nil _

theorem symbols_encode (s : List Char) : symbols (encode s) = ofChars s := by
  rw [symbols, pieces_of_text, List.flatMap_map, ofChars]
  exact List.map_eq_flatMap.symm

theorem decodeLossy_encode (s : List Char) : decodeLossy (encode s) = s := by
  rw [decodeLossy, pieces_of_text, List.map_map]
  exact List.map_id s

end ParishSite.Text.Utf8
