import ParishSite.Proofs.TrimmedText

/-! Slugs are words of small letters and digits with single hyphens between them, and the slug of such
a text is the text itself. Only a slug that is cut right behind a hyphen keeps that hyphen at its end,
and then a key made of it has two hyphens in a row. -/

namespace ParishSite

namespace Slug

open Text (Unbroken)

/-- One word or more of letters and digits, with single hyphens between the words. -/
inductive Words : List Char → Prop
  | last {c} (letter : isSlugChar c = true) : Words [c]
  | more {c rest} (letter : isSlugChar c = true) (words : Words rest) : Words (c :: rest)
  | hyphen {c rest} (letter : isSlugChar c = true) (words : Words rest) : Words (c :: '-' :: rest)

/-- What may be left of words that are cut anywhere. -/
inductive Stump : List Char → Prop
  | nothing : Stump []
  | whole {s} (words : Words s) : Stump s
  | hyphen {s} (words : Words s) : Stump (s ++ ['-'])

def IsPlain (c : Char) : Prop := isSlugChar c = true ∨ c = '-'

theorem IsPlain.range {c : Char} (plain : IsPlain c) :
    97 ≤ c.toNat ∧ c.toNat ≤ 122 ∨ 48 ≤ c.toNat ∧ c.toNat ≤ 57 ∨ c.toNat = 45 := by
  rcases plain with letter | rfl
  · exact (slugChar_range letter).imp_right .inl
  · exact .inr (.inr rfl)

theorem letter_ne_hyphen {c : Char} (letter : isSlugChar c = true) : c ≠ '-' := by
  rintro rfl
  exact absurd letter (by decide)

theorem Words.plain {s : List Char} (words : Words s) : ∀ c ∈ s, IsPlain c := by
  induction words with
  | last letter => exact List.forall_mem_singleton.mpr (.inl letter)
  | more letter _ ih => exact List.forall_mem_cons.mpr ⟨.inl letter, ih⟩
  | hyphen letter _ ih =>
    exact List.forall_mem_cons.mpr ⟨.inl letter, List.forall_mem_cons.mpr ⟨.inr rfl, ih⟩⟩

theorem Words.head {s : List Char} (words : Words s) :
    ∃ c rest, s = c :: rest ∧ isSlugChar c = true := by
  cases words with
  | last letter => exact ⟨_, _, rfl, letter⟩
  | more letter => exact ⟨_, _, rfl, letter⟩
  | hyphen letter => exact ⟨_, _, rfl, letter⟩

theorem Words.ne_nil {s : List Char} (words : Words s) : s ≠ [] := by
  obtain ⟨c, rest, rfl, -⟩ := words.head
  exact List.cons_ne_nil c rest

theorem Words.getLast {s : List Char} (words : Words s) :
    ∃ c, s.getLast? = some c ∧ isSlugChar c = true := by
  induction words with
  | last letter => exact ⟨_, rfl, letter⟩
  | more letter words ih | hyphen letter words ih =>
    obtain ⟨c, ended, plain⟩ := ih
    exact ⟨c, by simp [List.getLast?_cons, ended], plain⟩

theorem Words.getLast_ne_hyphen {s : List Char} (words : Words s) : s.getLast? ≠ some '-' := by
  obtain ⟨c, ended, letter⟩ := words.getLast
  rw [ended]
  exact fun same => letter_ne_hyphen letter (Option.some.inj same)

theorem Words.of_letters {s : List Char} (filled : s ≠ []) (letters : ∀ c ∈ s, isSlugChar c = true) :
    Words s := by
  induction s with
  | nil => exact absurd rfl filled
  | cons c rest ih =>
    obtain ⟨letter, letters⟩ := List.forall_mem_cons.mp letters
    by_cases ended : rest = []
    · subst ended
      exact .last letter
    · exact .more letter (ih ended letters)

theorem Words.append {s t : List Char} (first : Words s) (second : Words t) :
    Words (s ++ '-' :: t) := by
  induction first with
  | last letter => exact .hyphen letter second
  | more letter _ ih => exact .more letter ih
  | hyphen letter _ ih => exact .hyphen letter ih

/-- No two hyphens stand in a row. -/
theorem Words.single {s : List Char} (words : Words s) : ¬ ['-', '-'] <:+: s := by
  have start {c : Char} {rest : List Char} (letter : isSlugChar c = true) :
      ¬ ['-', '-'] <+: c :: rest := by
    intro before
    exact letter_ne_hyphen letter (List.cons_prefix_cons.mp before).1.symm
  induction words with
  | last letter =>
    intro inside
    have short : 2 ≤ 1 := inside.length_le
    omega
  | more letter _ ih =>
    intro inside
    rcases List.infix_cons_iff.mp inside with before | inside
    · exact start letter before
    · exact ih inside
  | hyphen letter words ih =>
    intro inside
    rcases List.infix_cons_iff.mp inside with before | inside
    · exact start letter before
    rcases List.infix_cons_iff.mp inside with before | inside
    · obtain ⟨c, rest, rfl, next⟩ := words.head
      have second := (List.cons_prefix_cons.mp before).2
      exact letter_ne_hyphen next (List.cons_prefix_cons.mp second).1.symm
    · exact ih inside

theorem Stump.letter {c : Char} {s : List Char} (letter : isSlugChar c = true) (stump : Stump s) :
    Stump (c :: s) := by
  cases stump with
  | nothing => exact .whole (.last letter)
  | whole words => exact .whole (.more letter words)
  | hyphen words => exact .hyphen (.more letter words)

theorem Stump.letterHyphen {c : Char} {s : List Char} (letter : isSlugChar c = true)
    (stump : Stump s) : Stump (c :: '-' :: s) := by
  cases stump with
  | nothing => exact .hyphen (.last letter)
  | whole words => exact .whole (.hyphen letter words)
  | hyphen words => exact .hyphen (.hyphen letter words)

theorem Stump.plain {s : List Char} (stump : Stump s) : ∀ c ∈ s, IsPlain c := by
  cases stump with
  | nothing => exact fun c member => absurd member List.not_mem_nil
  | whole words => exact words.plain
  | hyphen words =>
    exact List.forall_mem_append.mpr ⟨words.plain, List.forall_mem_singleton.mpr (.inr rfl)⟩

theorem Stump.words {s : List Char} (stump : Stump s) (closed : s.getLast? ≠ some '-') :
    s = [] ∨ Words s := by
  cases stump with
  | nothing => exact .inl rfl
  | whole words => exact .inr words
  | hyphen words => exact absurd List.getLast?_concat closed

theorem Stump.ended {s : List Char} (stump : Stump s) (ended : s.getLast? = some '-') :
    ∃ t, Words t ∧ s = t ++ ['-'] := by
  cases stump with
  | nothing => cases ended
  | whole words => exact absurd ended words.getLast_ne_hyphen
  | hyphen words => exact ⟨_, words, rfl⟩

theorem Words.take {s : List Char} (words : Words s) (n : Nat) : Stump (s.take n) := by
  induction words generalizing n with
  | last letter =>
    cases n with
    | zero => exact .nothing
    | succ n => exact .whole (by simpa using .last letter)
  | more letter _ ih =>
    cases n with
    | zero => exact .nothing
    | succ n => exact (ih n).letter letter
  | hyphen letter _ ih =>
    match n with
    | 0 => exact .nothing
    | 1 => exact .whole (.last letter)
    | n + 2 => exact (ih n).letterHyphen letter

/-- Runs of other characters become hyphens between words; one may also stand in front. -/
theorem hyphenated_stump (inRun : Bool) (s : List Char) :
    Stump (hyphenated inRun s) ∨
      inRun = false ∧ ∃ t, Stump t ∧ hyphenated inRun s = '-' :: t := by
  induction s generalizing inRun with
  | nil => exact .inl .nothing
  | cons c rest ih =>
    rw [hyphenated]
    split
    next letter =>
      rcases ih false with stump | ⟨-, t, stump, same⟩
      · exact .inl (stump.letter letter)
      · rw [same]
        exact .inl (stump.letterHyphen letter)
    next =>
      have later : Stump (hyphenated true rest) := by
        rcases ih true with stump | ⟨run, -⟩
        · exact stump
        · cases run
      split
      · exact .inl later
      next outside => exact .inr ⟨by simpa using outside, _, later, rfl⟩

theorem hyphenated_words {s : List Char} (words : Words s) (inRun : Bool) (t : List Char) :
    hyphenated inRun (s ++ t) = s ++ hyphenated false t := by
  have hyphen : ¬ isSlugChar '-' = true := by decide
  induction words generalizing inRun with
  | last letter => simp only [List.cons_append, List.nil_append, hyphenated, letter, if_true]
  | more letter _ ih => simp only [List.cons_append, hyphenated, letter, if_true, ih]
  | hyphen letter _ ih =>
    simp only [List.cons_append, hyphenated, letter, hyphen, Bool.false_eq_true, if_true, if_false, ih]

theorem hyphenated_eq {s : List Char} (stump : Stump s) : hyphenated false s = s := by
  cases stump with
  | nothing => rfl
  | whole words =>
    have same := hyphenated_words words false []
    rwa [List.append_nil, hyphenated, List.append_nil] at same
  | hyphen words => exact hyphenated_words words false ['-']

theorem dropWhile_words {s : List Char} (words : Words s) (t : List Char) :
    (s ++ t).dropWhile (· = '-') = s ++ t := by
  obtain ⟨c, rest, rfl, letter⟩ := words.head
  apply List.dropWhile_cons_of_neg
  simpa using letter_ne_hyphen letter

theorem rdropWhile_words {s : List Char} (words : Words s) : s.rdropWhile (· = '-') = s := by
  obtain ⟨c, ended, letter⟩ := words.getLast
  apply List.rdropWhile_eq_self_iff.mpr
  intro filled
  have last := (List.getLast?_eq_some_getLast filled).symm.trans ended
  rw [Option.some.inj last]
  simpa using letter_ne_hyphen letter

theorem trimHyphens_words {s : List Char} (words : Words s) : trimHyphens s = s := by
  have start := dropWhile_words words []
  rw [List.append_nil] at start
  rw [trimHyphens, start]
  exact rdropWhile_words words

theorem trimHyphens_hyphen {s : List Char} (words : Words s) : trimHyphens (s ++ ['-']) = s := by
  rw [trimHyphens, dropWhile_words words]
  exact (List.rdropWhile_concat_pos _ s '-' rfl).trans (rdropWhile_words words)

theorem trimHyphens_stump {s : List Char} (stump : Stump s) :
    trimHyphens s = [] ∨ Words (trimHyphens s) := by
  cases stump with
  | nothing => exact .inl rfl
  | whole words =>
    rw [trimHyphens_words words]
    exact .inr words
  | hyphen words =>
    rw [trimHyphens_hyphen words]
    exact .inr words

def uncut (s : List Char) : List Char := trimHyphens (hyphenated false (Text.lower (Text.trim s)))

theorem uncut_words (s : List Char) : uncut s = [] ∨ Words (uncut s) := by
  unfold uncut
  rcases hyphenated_stump false (Text.lower (Text.trim s)) with stump | ⟨-, t, stump, same⟩
  · exact trimHyphens_stump stump
  · have lead : trimHyphens ('-' :: t) = trimHyphens t := rfl
    rw [same, lead]
    exact trimHyphens_stump stump

theorem ofChars_stump (s : List Char) : Stump (ofChars s) := by
  change Stump ((uncut s).take maxLength)
  rcases uncut_words s with none | words
  · rw [none]
    exact .nothing
  · exact words.take maxLength

/-- A slug ends in a hyphen when that is where it is cut. -/
theorem ofChars_getLast (s : List Char) :
    (ofChars s).getLast? = some '-' ↔ (uncut s)[39]? = some '-' := by
  have ended : (uncut s).getLast? ≠ some '-' := by
    rcases uncut_words s with none | words
    · rw [none]
      rintro ⟨⟩
    · exact words.getLast_ne_hyphen
  have last : (ofChars s).getLast? = (uncut s)[39]?.or (uncut s).getLast? := List.getLast?_take
  rw [last]
  cases (uncut s)[39]? with
  | none => simpa using ended
  | some c => rfl

theorem lowerAfter_plain {s : List Char} (plain : ∀ c ∈ s, IsPlain c) (before : List Char) :
    Text.lowerAfter before s = s := by
  induction s generalizing before with
  | nil => rfl
  | cons c rest ih =>
    obtain ⟨first, plain⟩ := List.forall_mem_cons.mp plain
    have range := first.range
    have sigma : (c.toNat == 0x3a3) = false := beq_false_of_ne (by omega)
    have ascii : c.toNat < 128 := by omega
    have small : c.toLower = c := by
      unfold Char.toLower
      apply dif_neg
      rintro ⟨least, most⟩
      have capital : 65 ≤ c.toNat ∧ c.toNat ≤ 90 :=
        ⟨UInt32.le_iff_toNat_le.mp least, UInt32.le_iff_toNat_le.mp most⟩
      omega
    simp only [Text.lowerAfter, sigma, Bool.false_eq_true, if_false, Text.lowerChar, ascii, if_true, small, ih plain,
      List.singleton_append]

theorem plain_unbroken {s : List Char} (plain : ∀ c ∈ s, IsPlain c) : Unbroken s := by
  intro c member
  have range := (plain c member).range
  exact Text.isBlank_visible (by omega) (by omega)

theorem uncut_stump {s : List Char} (stump : Stump s) : uncut s = trimHyphens s := by
  have small : Text.lower s = s := lowerAfter_plain stump.plain []
  rw [uncut, (plain_unbroken stump.plain).trim, small, hyphenated_eq stump]

theorem ofChars_words {s : List Char} (words : Words s) : ofChars s = s.take maxLength := by
  change (uncut s).take maxLength = _
  rw [uncut_stump (.whole words), trimHyphens_words words]

theorem ofChars_hyphen {s : List Char} (words : Words s) :
    ofChars (s ++ ['-']) = s.take maxLength := by
  change (uncut (s ++ ['-'])).take maxLength = _
  rw [uncut_stump (.hyphen words), trimHyphens_hyphen words]

end Slug

theorem KeySuffix.char_letter : ∀ draw : Fin 36, Slug.isSlugChar (KeySuffix.char draw) = true := by
  decide

theorem KeySuffix.chars_letter (suffix : KeySuffix) : ∀ c ∈ suffix.chars, Slug.isSlugChar c = true := by
  intro c member
  obtain ⟨draw, -, rfl⟩ := List.mem_map.mp member
  exact KeySuffix.char_letter draw

theorem KeySuffix.chars_length (suffix : KeySuffix) : suffix.chars.length = 6 :=
  (List.length_map _).trans suffix.count

theorem KeySuffix.words (suffix : KeySuffix) : Slug.Words suffix.chars := by
  apply Slug.Words.of_letters
  · intro none
    have drawn := suffix.chars_length
    rw [none] at drawn
    cases drawn
  · exact suffix.chars_letter

namespace Slug

/-- Words behind a hyphen have two hyphens before them when one ends what stands in front. -/
theorem Stump.doubled_iff {s t : List Char} (stump : Stump s) (filled : s ≠ []) (words : Words t) :
    ['-', '-'] <:+: s ++ '-' :: t ↔ s.getLast? = some '-' := by
  cases stump with
  | nothing => exact absurd rfl filled
  | whole front => exact iff_of_false (front.append words).single front.getLast_ne_hyphen
  | @hyphen front =>
    apply iff_of_true
    · exact ⟨front, t, by simp⟩
    · exact List.getLast?_concat

end Slug

theorem slug_toList (v : String) : (slug v).toList = Slug.ofChars v.toList := String.toList_ofList

theorem slug_slug (v : String) :
    slug (slug v) = String.ofList (Slug.ofChars (Slug.ofChars v.toList)) := by
  rw [slug, slug_toList]

theorem keyFor_toList (label fallback : String) (suffix : KeySuffix) :
    (keyFor label fallback suffix).toList =
      (if slug label = "" then fallback else slug label).toList ++ '-' :: suffix.chars := by
  have hyphen : "-".toList = ['-'] := rfl
  rw [keyFor, String.toList_append, String.toList_append, hyphen, String.toList_ofList,
    List.append_assoc, List.singleton_append]

/-- A key has two hyphens in a row when the slug in it ends in one. -/
theorem keyFor_doubled_iff (label : String) {fallback : String} (words : Slug.Words fallback.toList)
    (suffix : KeySuffix) :
    ['-', '-'] <:+: (keyFor label fallback suffix).toList ↔
      (slug label).toList.getLast? = some '-' := by
  rw [keyFor_toList]
  split
  next blank =>
    apply ((Slug.Stump.whole words).doubled_iff words.ne_nil suffix.words).trans
    apply iff_of_false words.getLast_ne_hyphen
    rw [blank]
    rintro ⟨⟩
  next shown =>
    have stump := Slug.ofChars_stump label.toList
    rw [← slug_toList] at stump
    apply stump.doubled_iff _ suffix.words
    intro none
    exact shown (String.toList_eq_nil_iff.mp none)

/-- A slug has no more than forty characters: words with single hyphens between them, of which it is
the slug itself, unless the fortieth character of the words is a hyphen. Then the slug ends in that
hyphen, loses it when it is made a slug again, and has it next to another one in every key. -/
theorem slug_words_unless_cut_at_hyphen (v : String) :
    (slug v).length ≤ 40 ∧
    (Slug.uncut v.toList = [] ∨ Slug.Words (Slug.uncut v.toList)) ∧
    (slug v).toList = (Slug.uncut v.toList).take 40 ∧
    ((Slug.uncut v.toList)[39]? ≠ some '-' →
      (slug v = "" ∨ Slug.Words (slug v).toList) ∧ slug (slug v) = slug v) ∧
    ((Slug.uncut v.toList)[39]? = some '-' → ∃ words, Slug.Words words ∧
      (slug v).toList = words ++ ['-'] ∧ slug (slug v) = String.ofList words) ∧
    ∀ fallback suffix, Slug.Words fallback.toList →
      (['-', '-'] <:+: (keyFor v fallback suffix).toList ↔ (Slug.uncut v.toList)[39]? = some '-') := by
  have stump := Slug.ofChars_stump v.toList
  have atCut := Slug.ofChars_getLast v.toList
  have few : (Slug.ofChars v.toList).length ≤ 40 := List.length_take_le 40 _
  refine ⟨?length, Slug.uncut_words v.toList, slug_toList v, ?words, ?hyphen, ?keys⟩
  case length =>
    rw [← String.length_toList, slug_toList]
    exact few
  case words =>
    intro inside
    rcases stump.words (fun ended => inside (atCut.mp ended)) with none | words
    · have blank : slug v = "" := by rw [slug, none]
      rw [blank]
      exact ⟨.inl rfl, rfl⟩
    · have same : Slug.ofChars (Slug.ofChars v.toList) = Slug.ofChars v.toList :=
        (Slug.ofChars_words words).trans (List.take_of_length_le few)
      rw [slug_slug, slug_toList, same]
      exact ⟨.inr words, rfl⟩
  case hyphen =>
    intro cut
    obtain ⟨words, joined, same⟩ := stump.ended (atCut.mpr cut)
    have shorter : words.length ≤ 40 := by
      rw [same, List.length_append] at few
      exact Nat.le_trans (Nat.le_add_right _ _) few
    refine ⟨words, joined, (slug_toList v).trans same, ?_⟩
    rw [slug_slug, same, Slug.ofChars_hyphen joined]
    exact congrArg String.ofList (List.take_of_length_le shorter)
  case keys =>
    intro fallback suffix words
    rw [keyFor_doubled_iff v words suffix, slug_toList]
    exact atCut

theorem Slug.words_team : Slug.Words "team".toList := by
  apply Slug.Words.of_letters
  · decide
  · exact List.all_eq_true.mp (by decide)

/-- The slug of a long title that is cut inside a word. -/
theorem prayer_night_key_in_words :
    let title := "Night of Worship and Prayer for the Whole City"
    Slug.Words "team".toList ∧ (Slug.uncut title.toList)[39]? ≠ some '-' ∧
      Slug.Words (slug title).toList ∧ slug (slug title) = slug title ∧
      ∀ suffix, ¬ ['-', '-'] <:+: (keyFor title "team" suffix).toList := by
  intro title
  have inside : (Slug.uncut title.toList)[39]? ≠ some '-' := by decide +kernel
  obtain ⟨-, -, -, words, -, keys⟩ := slug_words_unless_cut_at_hyphen title
  obtain ⟨blank | joined, same⟩ := words inside
  · exact absurd blank (by decide +kernel)
  · have apart := fun suffix => mt (keys "team" suffix Slug.words_team).mp inside
    exact ⟨Slug.words_team, inside, joined, same, apart⟩

/-- The slug of a long title that is cut behind a hyphen: it ends in the hyphen, is no slug of itself,
and makes a key with two hyphens in a row. -/
theorem retreat_slug_ends_in_hyphen :
    let title := "Young Adults Summer Retreat and Worship Night"
    slug title = "young-adults-summer-retreat-and-worship-" ∧ ¬ Slug.Words (slug title).toList ∧
      slug (slug title) ≠ slug title ∧
      ∀ suffix, ['-', '-'] <:+: (keyFor title "team" suffix).toList := by
  intro title
  have written : slug title = "young-adults-summer-retreat-and-worship-" := by decide +kernel
  have ended : (slug title).toList.getLast? = some '-' := by
    rw [written]
    decide
  refine ⟨written, fun words => words.getLast_ne_hyphen ended, by decide +kernel, ?_⟩
  exact fun suffix => (keyFor_doubled_iff title Slug.words_team suffix).mpr ended

end ParishSite
