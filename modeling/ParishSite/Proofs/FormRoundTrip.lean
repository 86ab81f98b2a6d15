import ParishSite.Proofs.Utf8RoundTrip
import ParishSite.Web.Form

/-! Pairs that are written into a query string are read back as they were, whatever characters they
hold. A written text has no ampersand and no equals sign, so both cut a query only where the writer
put them. -/

namespace ParishSite.Web

/-- A hexadecimal digit stands for its number, and is no sign with a meaning in a query. -/
theorem hexChar_spec :
    ∀ n < 16, hexValue? (hexChar n) = some n ∧ hexChar n ∉ ['%', '&', '=', '+', '/'] := by decide

theorem percentDecode_plain {c : Char} (plain : c ≠ '%') (rest : List Char) :
    percentDecode (c :: rest) = Text.Utf8.encodeChar c ++ percentDecode rest := by
  rw [percentDecode]
  intro _ _ _ percent
  exact absurd percent plain

theorem percentDecode_byte (b : UInt8) (rest : List Char) :
    percentDecode (percentByte b ++ rest) = b :: percentDecode rest := by
  have range := b.toNat_lt
  have high := (hexChar_spec (b.toNat / 16) (by omega)).1
  have low := (hexChar_spec (b.toNat % 16) (by omega)).1
  have whole : b.toNat / 16 * 16 + b.toNat % 16 = b.toNat := by omega
  change percentDecode ('%' :: hexChar (b.toNat / 16) :: hexChar (b.toNat % 16) :: rest) = _
  rw [percentDecode]
  simp only [high, low, whole, UInt8.ofNat_toNat]

namespace Form

/-- A byte that stands for itself is a letter, a digit or one of four signs. -/
theorem kept_char {b : UInt8} (kept : isKept b = true) :
    (Char.ofNat b.toNat).toNat = b.toNat ∧ b.toNat < 0x80 ∧
      Char.ofNat b.toNat ∉ ['%', '&', '=', '+', '/'] := by
  simp only [isKept, Bool.or_eq_true, Bool.and_eq_true, decide_eq_true_eq, beq_iff_eq] at kept
  have small : b.toNat < 0x80 := by omega
  have value : (Char.ofNat b.toNat).toNat = b.toNat := by
    have valid : b.toNat.isValidChar := Or.inl (by omega)
    unfold Char.ofNat
    rw [dif_pos valid]
    exact UInt32.toNat_ofNatLT
  refine ⟨value, small, ?_⟩
  intro member
  have number : b.toNat ∈ ['%', '&', '=', '+', '/'].map Char.toNat := by
    rw [← value]
    exact List.mem_map_of_mem member
  have numbers : ['%', '&', '=', '+', '/'].map Char.toNat = [37, 38, 61, 43, 47] := by decide
  rw [numbers] at number
  simp only [List.mem_cons, List.not_mem_nil, or_false] at number
  omega

theorem encodeByte_plain (b : UInt8) : '&' ∉ encodeByte b ∧ '=' ∉ encodeByte b := by
  unfold encodeByte
  split
  · next kept =>
    obtain ⟨-, -, plain⟩ := kept_char kept
    constructor <;> intro member <;> apply plain <;> rw [← List.mem_singleton.mp member] <;> decide
  split
  · decide
  · have range := b.toNat_lt
    have high := (hexChar_spec (b.toNat / 16) (by omega)).2
    have low := (hexChar_spec (b.toNat % 16) (by omega)).2
    simp only [List.mem_cons, List.not_mem_nil, or_false, not_or] at high low
    simp only [percentByte, List.mem_cons, List.not_mem_nil, or_false, not_or]
    exact ⟨⟨by decide, Ne.symm high.2.1, Ne.symm low.2.1⟩,
      ⟨by decide, Ne.symm high.2.2.1, Ne.symm low.2.2.1⟩⟩

theorem encodeText_plain (s : String) : '&' ∉ encodeText s ∧ '=' ∉ encodeText s := by
  constructor
  all_goals
    intro member
    obtain ⟨b, -, inside⟩ := List.mem_flatMap.mp member
  · exact (encodeByte_plain b).1 inside
  · exact (encodeByte_plain b).2 inside

/-- No plus sign is left of a byte but that of a space. -/
private theorem decode_encodeByte (b : UInt8) (rest : List Char) :
    percentDecode (plusToSpace (encodeByte b) ++ rest) = b :: percentDecode rest := by
  unfold encodeByte
  split
  · next kept =>
    obtain ⟨value, small, plain⟩ := kept_char kept
    simp only [List.mem_cons, List.not_mem_nil, or_false, not_or] at plain
    have bytes : Text.Utf8.encodeChar (Char.ofNat b.toNat) = [b] := by
      rw [Text.Utf8.encodeChar, value, if_pos small, UInt8.ofNat_toNat]
    have same : plusToSpace [Char.ofNat b.toNat] = [Char.ofNat b.toNat] := by
      simp only [plusToSpace, List.map_cons, List.map_nil, if_neg plain.2.2.2.1]
    rw [same, List.singleton_append, percentDecode_plain plain.1, bytes]
    rfl
  split
  · next space =>
    have value : b = 32 := UInt8.toNat_inj.mp (beq_iff_eq.mp space)
    subst value
    rfl
  · have range := b.toNat_lt
    have high := (hexChar_spec (b.toNat / 16) (by omega)).2
    have low := (hexChar_spec (b.toNat % 16) (by omega)).2
    simp only [List.mem_cons, List.not_mem_nil, or_false, not_or] at high low
    have same : plusToSpace (percentByte b) = percentByte b := by
      simp only [plusToSpace, percentByte, List.map_cons, List.map_nil, if_neg high.2.2.2.1,
        if_neg low.2.2.2.1]
      rfl
    rw [same, percentDecode_byte]

private theorem decode_bytes (bytes : List UInt8) :
    percentDecode (plusToSpace (bytes.flatMap encodeByte)) = bytes := by
  induction bytes with
  | nil => rfl
  | cons b bytes ih =>
    have cut : plusToSpace ((b :: bytes).flatMap encodeByte) =
        plusToSpace (encodeByte b) ++ plusToSpace (bytes.flatMap encodeByte) := List.map_append
    rw [cut, decode_encodeByte, ih]

theorem decodeText_encodeText (s : String) : decodeText (encodeText s) = s := by
  rw [decodeText, encodeText, decode_bytes, Text.Utf8.decodeLossy_encode, String.ofList_toList]

theorem takeWhile_cut {mark : Char} {s : List Char} (plain : mark ∉ s) (rest : List Char) :
    (s ++ mark :: rest).takeWhile (· ≠ mark) = s ∧
      (s ++ mark :: rest).dropWhile (· ≠ mark) = mark :: rest := by
  have other : ∀ c ∈ s, decide (c ≠ mark) = true := by
    intro c member
    apply decide_eq_true
    rintro rfl
    exact plain member
  rw [List.takeWhile_append_of_pos other, List.dropWhile_append_of_pos other]
  simp

theorem decodePair_encodePair (pair : String × String) : decodePair (encodePair pair) = pair := by
  obtain ⟨taken, dropped⟩ := takeWhile_cut (encodeText_plain pair.1).2 (encodeText pair.2)
  rw [encodePair, decodePair, taken, dropped, List.drop_one, List.tail_cons, decodeText_encodeText,
    decodeText_encodeText]

theorem encodePair_plain (pair : String × String) : '&' ∉ encodePair pair := by
  rw [encodePair, List.mem_append, List.mem_cons]
  rintro (member | sign | member)
  · exact (encodeText_plain pair.1).1 member
  · exact absurd sign (by decide)
  · exact (encodeText_plain pair.2).1 member

theorem encodePair_ne_nil (pair : String × String) : encodePair pair ≠ [] := by
  rw [encodePair]
  exact List.append_ne_nil_of_right_ne_nil _ (List.cons_ne_nil _ _)

theorem parts_plain {s : List Char} (plain : '&' ∉ s) : parts s = [s] := by
  induction s with
  | nil => rfl
  | cons c s ih =>
    obtain ⟨first, others⟩ := List.ne_and_not_mem_of_not_mem_cons plain
    rw [parts, if_neg first.symm, ih others]

theorem parts_cut {s : List Char} (plain : '&' ∉ s) (rest : List Char) :
    parts (s ++ '&' :: rest) = s :: parts rest := by
  induction s with
  | nil => rw [List.nil_append, parts, if_pos rfl]
  | cons c s ih =>
    obtain ⟨first, others⟩ := List.ne_and_not_mem_of_not_mem_cons plain
    rw [List.cons_append, parts, if_neg first.symm, ih others]

theorem parts_encode {pairs : List (String × String)} (some : pairs ≠ []) :
    parts (encode pairs) = pairs.map encodePair := by
  induction pairs with
  | nil => exact absurd rfl some
  | cons pair rest ih =>
    cases rest with
    | nil => exact parts_plain (encodePair_plain pair)
    | cons next rest =>
      rw [encode, parts_cut (encodePair_plain pair), ih (List.cons_ne_nil next rest)]
      · rfl
      · exact List.cons_ne_nil next rest

/-- What is written into a query is what is read from it: the same pairs in the same order. -/
theorem decode_encode (pairs : List (String × String)) : decode (encode pairs) = pairs := by
  by_cases empty : pairs = []
  · subst empty
    rfl
  have kept : (pairs.map encodePair).filter (fun part => !part.isEmpty) = pairs.map encodePair := by
    apply List.filter_eq_self.mpr
    intro part member
    obtain ⟨pair, -, rfl⟩ := List.mem_map.mp member
    rw [Bool.not_eq_true', List.isEmpty_eq_false_iff]
    exact encodePair_ne_nil pair
  have back : decodePair ∘ encodePair = id := funext decodePair_encodePair
  rw [decode, parts_encode empty, kept, List.map_map, back, List.map_id]

end Form
end ParishSite.Web
