import ParishSite.Proofs.FallibleSteps
import ParishSite.Proofs.WrittenTokens
import ParishSite.Settings

/-! How the settings that are texts arrive. A text is kept, whatever it is, unless it looks like a truth
value or a number. Then it is written anew, and only a few numbers look the same as before: zeros in
front, a plus sign and a power of ten are always lost. -/

namespace ParishSite

namespace Number

/-- A number without a plus sign, a power of ten, or zeros before its other digits. -/
structure Tidy (typed : List Char) : Prop where
  unmarked : ∀ mark ∈ ['+', 'e', 'E'], mark ∉ typed
  unpadded : ∀ rest, typed = rest ∨ typed = '-' :: rest → Unpadded rest

theorem Tidy.signed {body : List Char} (plain : ∀ mark ∈ ['+', '-', 'e', 'E'], mark ∉ body)
    (unpadded : Unpadded body) (negative : Bool) :
    Tidy (if negative then '-' :: body else body) := by
  have fewer : ∀ mark ∈ ['+', 'e', 'E'], mark ∈ ['+', '-', 'e', 'E'] := each_char rfl
  have unsigned : ∀ rest, body ≠ '-' :: rest := by
    rintro rest rfl
    exact plain '-' (by decide) List.mem_cons_self
  cases negative with
  | false =>
    refine ⟨fun mark member => plain mark (fewer mark member), ?_⟩
    rintro rest (same | same)
    · exact same ▸ unpadded
    · exact absurd same (unsigned rest)
  | true =>
    refine ⟨fun mark member found => ?_, ?_⟩
    · rcases List.mem_cons.mp found with rfl | found
      · exact absurd member (by decide)
      · exact plain mark (fewer mark member) found
    · rintro rest (rfl | same)
      · rintro d more - ⟨⟩
      · cases same
        exact unpadded

theorem plain_of_digits {body : List Char} (digits : ∀ c ∈ body, c.isDigit = true ∨ c = '.') :
    ∀ mark ∈ ['+', '-', 'e', 'E'], mark ∉ body := by
  have other : ∀ mark ∈ ['+', '-', 'e', 'E'], ¬ (mark.isDigit = true ∨ mark = '.') := each_char rfl
  exact fun mark member found => other mark member (digits mark found)

theorem tidy_toString (n : Int) : Tidy (toString n).toList := by
  have plain := plain_of_digits fun c member => .inl (toDigits_isDigit n.natAbs c member)
  have tidy := Tidy.signed plain (toDigits_unpadded n.natAbs) (decide (n < 0))
  rw [Json.toList_toString]
  simpa using tidy

theorem toString_ne_minusZero (n : Int) : (toString n).toList ≠ ['-', '0'] := by
  intro same
  rw [Json.toList_toString] at same
  split at same
  · next negative =>
    have digits : Nat.toDigits 10 n.natAbs = ['0'] := List.tail_eq_of_cons_eq same
    have zero : n.natAbs = 0 := by
      rw [← Nat.ofDigitChars_ten_toDigits (n := n.natAbs), digits]
      rfl
    omega
  · have digit := toDigits_isDigit n.natAbs '-' (by rw [same]; exact List.mem_cons_self)
    cases digit

/-- A whole number looks the same when it is written out, if it is tidy. Zero has no sign. -/
theorem Whole.written_iff {typed : List Char} {n : Int} (whole : Whole typed n) :
    (toString n).toList = typed ↔ Tidy typed ∧ typed ≠ ['-', '0'] := by
  constructor
  · rintro rfl
    exact ⟨tidy_toString n, toString_ne_minusZero n⟩
  · rintro ⟨tidy, signless⟩
    rw [Json.toList_toString]
    cases whole with
    | plain digits =>
      rw [if_neg (Int.not_lt.mpr (Int.natCast_nonneg _)), Int.natAbs_natCast]
      exact toDigits_value digits (tidy.unpadded _ (.inl rfl))
    | plus digits => exact absurd List.mem_cons_self (tidy.unmarked '+' (by decide))
    | @minus ds digits =>
      have written := toDigits_value digits (tidy.unpadded _ (.inr rfl))
      have positive : 0 < Nat.ofDigitChars 10 ds 0 := by
        refine Nat.pos_of_ne_zero fun zero => signless ?_
        rw [zero] at written
        rw [← written]
        rfl
      rw [if_pos (by omega), Int.natAbs_neg, Int.natAbs_natCast, written]

namespace Layout

theorem Positional.digits {n : Nat} {body : List Char} (positional : Positional (Nat.toDigits 10 n) body) :
    ∀ c ∈ body, c.isDigit = true ∨ c = '.' := by
  intro c member
  have zero {k : Nat} (found : c ∈ List.replicate k '0') : c.isDigit = true := by
    rw [List.eq_of_mem_replicate found]
    rfl
  have digit := toDigits_isDigit n
  cases positional with
  | whole k =>
    rcases List.mem_append.mp member with found | found
    · exact .inl (digit c found)
    · exact .inl (zero found)
  | pointed cut filled =>
    rw [← cut, List.forall_mem_append] at digit
    rcases List.mem_append.mp member with found | found
    · exact .inl (digit.1 c found)
    · exact (List.mem_cons.mp found).elim .inr fun found => .inl (digit.2 c found)
  | small k =>
    rcases List.mem_cons.mp member with rfl | found
    · exact .inl rfl
    rcases List.mem_cons.mp found with rfl | found
    · exact .inr rfl
    rcases List.mem_append.mp found with found | found
    · exact .inl (zero found)
    · exact .inl (digit c found)

/-- Zeros stand before other digits only in a zero that is written with many of them. -/
theorem Positional.unpadded {n : Nat} {body : List Char}
    (positional : Positional (Nat.toDigits 10 n) body) :
    Unpadded body ∨ ∃ k, body = List.replicate (k + 1) '0' := by
  have unpadded := toDigits_unpadded n
  cases positional with
  | whole k =>
    rcases Nat.eq_zero_or_pos n with rfl | positive
    · exact .inr ⟨k, rfl⟩
    · obtain ⟨d, ds, written, nonzero⟩ := toDigits_head positive
      refine .inl fun e rest _ same => nonzero ?_
      rw [written] at same
      exact (List.cons.inj same).1
  | @pointed whole fraction cut filled =>
    refine .inl fun e rest digit same => ?_
    match whole, filled with
    | [d], _ =>
      cases same
      cases digit
    | d :: d' :: more, _ =>
      cases same
      exact unpadded e (more ++ fraction) digit cut.symm
  | small k =>
    refine .inl ?_
    rintro d rest digit ⟨⟩
    cases digit

end Layout

theorem Extended.render_tidy (x : Extended) : Tidy x.render.toList ∨ Whole x.render.toList 0 := by
  have word (body : List Char) (plain : ∀ mark ∈ ['+', '-', 'e', 'E'], mark ∉ body)
      (start : body.head? ≠ some '0') (negative : Bool) :
      Tidy (if negative then '-' :: body else body) := by
    refine Tidy.signed plain ?_ negative
    rintro d rest - rfl
    exact start rfl
  cases x with
  | infinite negative =>
    have tidy := word ['i', 'n', 'f'] (each_char rfl) (by decide) negative
    cases negative <;> exact .inl tidy
  | notNumber => exact .inl (word ['N', 'a', 'N'] (each_char rfl) (by decide) false)
  | finite x =>
    obtain ⟨body, positional, written⟩ := Layout.plain_render x
    rw [render, written]
    rcases positional.unpadded with unpadded | ⟨k, rfl⟩
    · exact .inl (.signed (plain_of_digits positional.digits) unpadded x.negative)
    · have digits : Digits (List.replicate (k + 1) '0') :=
        ⟨List.cons_ne_nil _ _, fun c member => by rw [List.eq_of_mem_replicate member]; rfl⟩
      have zero : Nat.ofDigitChars 10 (List.replicate (k + 1) '0') 0 = 0 := by
        rw [Nat.ofDigitChars_replicate_zero, Nat.mul_zero]
      cases x.negative with
      | false =>
        have whole := Whole.plain digits
        rw [zero] at whole
        exact .inr whole
      | true =>
        have whole := Whole.minus digits
        rw [zero] at whole
        exact .inr whole

end Number

theorem ascii_of_toLower {c : Char} (lower : c.toLower.toNat < 128) : c.toNat < 128 := by
  refine Nat.lt_of_not_le fun large => ?_
  have same : c.toLower = c := by
    unfold Char.toLower
    apply dif_neg
    rintro ⟨-, most⟩
    have capital : c.toNat ≤ 90 := UInt32.le_iff_toNat_le.mp most
    omega
  rw [same] at lower
  omega

namespace Number.Extended

/-- A number begins with an ASCII character that no truth value begins with. -/
theorem Unsigned.first {negative : Bool} {s : List Char} {x : Extended} (unsigned : Unsigned negative s x) :
    ∃ c rest, s = c :: rest ∧ c.toNat < 128 ∧ c.toLower ∉ ['t', 'f'] := by
  obtain ⟨c, rest, rfl, (digit | rfl) | letter⟩ := unsigned.head
  · have range := digit_range digit
    refine ⟨c, rest, rfl, by omega, ?_⟩
    rw [toLower_digit (.inl digit)]
    intro member
    have other : ∀ c ∈ ['t', 'f'], ¬ c.isDigit = true := each_char rfl
    exact other c member digit
  · exact ⟨_, _, rfl, by decide, by decide⟩
  · have small : ∀ c ∈ ['i', 'n'], c.toNat < 128 ∧ c ∉ ['t', 'f'] := each_char rfl
    exact ⟨c, rest, rfl, ascii_of_toLower (small _ letter).1, (small _ letter).2⟩

theorem Typed.first {s : List Char} {x : Extended} (typed : Typed s x) :
    ∃ c rest, s = c :: rest ∧ c.toNat < 128 ∧ c.toLower ∉ ['t', 'f'] := by
  cases typed with
  | plain unsigned => exact unsigned.first
  | plus => exact ⟨_, _, rfl, by decide, by decide⟩
  | minus => exact ⟨_, _, rfl, by decide, by decide⟩

end Number.Extended

theorem Text.lower_ascii {c : Char} (ascii : c.toNat < 128) (rest : List Char) :
    Text.lower (c :: rest) = c.toLower :: Text.lowerAfter [c] rest := by
  have sigma : (c.toNat == 0x3a3) = false := beq_false_of_ne (by omega)
  simp only [Text.lower, Text.lowerAfter, Text.lowerChar, sigma, ascii, Bool.false_eq_true, if_false, if_true,
    List.singleton_append]

namespace Setting

open Number (Extended)

theorem not_truth {v : String} {x : Extended} (typed : Extended.Typed v.toList x) :
    Text.lowerCase v ∉ truthWords := by
  obtain ⟨c, rest, same, ascii, other⟩ := typed.first
  have lower : (Text.lowerCase v).toList = c.toLower :: Text.lowerAfter [c] rest := by
    rw [Text.lowerCase, String.toList_ofList, same, Text.lower_ascii ascii]
  have first : ∀ word ∈ truthWords, word.toList.head?.all (· ∈ ['t', 'f']) = true := by decide
  intro truth
  have letter := first _ truth
  rw [lower] at letter
  exact other (of_decide_eq_true letter)

theorem ofText_truth {v : String} (truth : Text.lowerCase v ∈ truthWords) :
    (ofText v).toText = Text.lowerCase v := by
  unfold ofText
  generalize Text.lowerCase v = word at truth
  rcases List.mem_pair.mp truth with rfl | rfl <;> rfl

end Setting

inductive TextSetting
  | channelKey
  | channelId
  | cacheFile
  | storeKey
  | resetRedirect

namespace TextSetting

/-- The name of a setting, which its variable has behind `APP_`. -/
def key : TextSetting → String
  | channelKey => "youtube_api_key"
  | channelId => "youtube_channel_id"
  | cacheFile => "youtube_cache_file"
  | storeKey => "supabase_anon_key"
  | resetRedirect => "password_reset_redirect"

def of : TextSetting → Settings → Option String
  | channelKey => Settings.channelKey
  | channelId => Settings.channelId
  | cacheFile => Settings.cacheFile
  | storeKey => Settings.storeKey
  | resetRedirect => Settings.resetRedirect

end TextSetting

namespace Settings

open Number (Extended Tidy Whole)
open Number.Extended (Typed)
open Setting (Fits truthWords)

/-- The last variable with the name of a setting, in any case, holds a text. -/
inductive IsSet (environment : List (String × String)) (key v : String) : Prop
  | last {before name after} (cut : environment = before ++ (name, v) :: after)
      (named : Text.lowerCase name = "app_" ++ key)
      (others : ∀ pair ∈ after, Text.lowerCase pair.1 ≠ "app_" ++ key) : IsSet environment key v

theorem IsSet.found {environment : List (String × String)} {key v : String}
    (isSet : IsSet environment key v) :
    (environment.reverse.find? fun (name, _) => Text.lowerCase name = "app_" ++ key).map
      (fun (_, s) => Setting.ofText s) = some (Setting.ofText v) := by
  obtain @⟨before, name, after, cut, named, others⟩ := isSet
  have found : environment.reverse.find? (fun (name, _) => Text.lowerCase name = "app_" ++ key) =
      some (name, v) := by
    refine List.find?_eq_some_iff_append.mpr ⟨by simpa using named, after.reverse, before.reverse, ?_, ?_⟩
    · rw [cut]
      simp
    · simpa using others
  rw [found]
  rfl

private theorem text_read {x : Option Setting} {y : Setting} {given : Option String}
    (read : (match x with
      | none => .ok none
      | some v => .ok (some v.toText) : Except String (Option String)) = .ok given)
    (found : x = some y) : given = some y.toText := by
  subst found
  cases read
  rfl

theorem of_eq {environment : List (String × String)} {s : Settings}
    (given : ofEnvironment environment = .ok s) {setting : TextSetting} {v : String}
    (isSet : IsSet environment setting.key v) : setting.of s = some (Setting.ofText v).toText := by
  have found := (value?_eq environment setting.key).trans isSet.found
  unfold ofEnvironment at given
  dsimp only at given
  obtain ⟨isDebug, -, given⟩ := ok_of_bind given
  obtain ⟨hasApiDocs, -, given⟩ := ok_of_bind given
  obtain ⟨listenOn, -, given⟩ := ok_of_bind given
  obtain ⟨channelUrl, -, given⟩ := ok_of_bind given
  obtain ⟨channelKey, readKey, given⟩ := ok_of_bind given
  obtain ⟨channelId, readId, given⟩ := ok_of_bind given
  obtain ⟨cacheSeconds, -, given⟩ := ok_of_bind given
  obtain ⟨cacheFile, readFile, given⟩ := ok_of_bind given
  obtain ⟨storeUrl, -, given⟩ := ok_of_bind given
  obtain ⟨storeKey, readStore, given⟩ := ok_of_bind given
  obtain ⟨resetRedirect, readRedirect, given⟩ := ok_of_bind given
  cases given
  cases setting with
  | channelKey => exact text_read readKey found
  | channelId => exact text_read readId found
  | cacheFile => exact text_read readFile found
  | storeKey => exact text_read readStore found
  | resetRedirect => exact text_read readRedirect found

/-- A text that is neither a truth value nor a number arrives as it is. A truth value arrives in small
letters. A number arrives as it is written out: a whole number of 64 bits by its digits, any other
number by the digits of the nearest one that there is. So it arrives as it is only if it is tidy, and a
whole number does then, unless it is a zero with a sign. -/
theorem text_kept_unless_guessed {environment : List (String × String)} {s : Settings}
    (given : ofEnvironment environment = .ok s) (setting : TextSetting) (v : String)
    (isSet : IsSet environment setting.key v) :
    let arrives (w : String) : Prop := setting.of s = some w
    (Text.lowerCase v ∈ truthWords → arrives (Text.lowerCase v)) ∧
    (∀ n, Whole v.toList n → Fits n →
      arrives (toString n) ∧ (arrives v ↔ Tidy v.toList ∧ v ≠ "-0")) ∧
    (∀ x, Typed v.toList x → (∀ n, Whole v.toList n → ¬ Fits n) →
      arrives x.render ∧ (arrives v → Tidy v.toList)) ∧
    (Text.lowerCase v ∉ truthWords → (∀ x, ¬ Typed v.toList x) → arrives v) := by
  intro arrives
  have made : arrives (Setting.ofText v).toText := of_eq given isSet
  have same {w : String} (comes : arrives w) : arrives v ↔ w = v := by
    change setting.of s = some w at comes
    change setting.of s = some v ↔ _
    rw [comes, Option.some.injEq]
  refine ⟨fun truth => ?truth, fun n whole fits => ?whole, fun x typed unfit => ?number,
    fun other noNumber => ?plain⟩
  case truth =>
    rwa [Setting.ofText_truth truth] at made
  case whole =>
    obtain ⟨x, typed⟩ := whole.typed
    rw [Setting.ofText_int (Setting.not_truth typed) whole fits] at made
    refine ⟨made, (same made).trans ?_⟩
    have signless : v.toList ≠ ['-', '0'] ↔ v ≠ "-0" := not_congr (@String.toList_inj v "-0")
    rw [← signless, ← whole.written_iff]
    exact String.toList_inj.symm
  case number =>
    rw [Setting.ofText_float (Setting.not_truth typed) typed unfit] at made
    refine ⟨made, fun kept => ?_⟩
    have written : x.render = v := (same made).mp kept
    rcases x.render_tidy with tidy | zero
    · rwa [written] at tidy
    · rw [written] at zero
      exact absurd (show Fits 0 from ⟨by decide, by decide⟩) (unfit 0 zero)
  case plain =>
    rwa [Setting.ofText_text other noNumber] at made

/-- A variable whose text looks like no number, and one with zeros before a number. -/
def twoTexts : List (String × String) :=
  [("APP_YOUTUBE_CHANNEL_ID", "UC-007"), ("app_supabase_anon_key", "007")]

theorem channel_kept_beside_rewritten_key :
    ∃ s, ofEnvironment twoTexts = .ok s ∧
      IsSet twoTexts "youtube_channel_id" "UC-007" ∧ s.channelId = some "UC-007" ∧
      IsSet twoTexts "supabase_anon_key" "007" ∧ s.storeKey = some "7" := by
  have first : IsSet twoTexts "youtube_channel_id" "UC-007" :=
    .last (show twoTexts = [] ++ _ from rfl) (by decide) (by decide)
  have second : IsSet twoTexts "supabase_anon_key" "007" :=
    .last (show twoTexts = twoTexts.take 1 ++ _ from rfl) (by decide) (by decide)
  cases given : ofEnvironment twoTexts with
  | error fault =>
    have ok : (ofEnvironment twoTexts).isOk = true := by decide +kernel
    rw [given] at ok
    cases ok
  | ok s =>
    have noNumber : ∀ x, ¬ Typed "UC-007".toList x := by
      intro x typed
      have none : Extended.read? "UC-007" = none := by decide
      rw [Extended.read?_iff.mpr typed] at none
      cases none
    have seven : Whole "007".toList 7 := .plain ⟨by decide, Number.each_char rfl⟩
    obtain ⟨-, -, -, kept⟩ := text_kept_unless_guessed given .channelId "UC-007" first
    obtain ⟨-, rewritten, -, -⟩ := text_kept_unless_guessed given .storeKey "007" second
    exact ⟨s, rfl, first, kept (by decide) noNumber, second, (rewritten 7 seven ⟨by decide, by decide⟩).1⟩

/-- The texts of a channel that are taken for numbers or truth values do not arrive. -/
theorem guessed_texts_rewritten :
    let arrives (v : String) : Option String :=
      (ofEnvironment [("APP_YOUTUBE_CHANNEL_ID", v)]).toOption.bind channelId
    arrives "007" = some "7" ∧ arrives "+7" = some "7" ∧ arrives "1e3" = some "1000" ∧
      arrives "TRUE" = some "true" := by
  decide +kernel

end Settings
end ParishSite
