import ParishSite.Json.Encode
import ParishSite.Number.Extended
import ParishSite.Text.Quoted
import ParishSite.Web.Url

/-! The settings of the service, from variables whose names begin with `APP_` in any case. A value is
taken for a truth value, a whole number or another number where it can be, and otherwise for a text;
a setting of another kind converts it where that makes sense. -/

namespace ParishSite

open Number.Extended (Typed)
open Number (Digits Extended Whole between_isDigit foldl_value whole_minus whole_plain whole_plus)
open Web (Url)

inductive Setting
  | bool (value : Bool)
  | int (value : Int)
  | float (value : Extended)
  | text (value : String)

namespace Setting

/-- The integers of 64 bits with their sign. -/
def Fits (n : Int) : Prop := -9223372036854775808 ≤ n ∧ n ≤ 9223372036854775807

private def signed? (sign : Int) (ds : List Char) : Option Int :=
  if ds.isEmpty || !ds.all fun c => '0' ≤ c && c ≤ '9' then none
  else
    let n := sign * (ds.foldl (fun n c => n * 10 + (c.toNat - 48)) 0 : Nat)
    if -9223372036854775808 ≤ n ∧ n ≤ 9223372036854775807 then some n else none

/-- A whole number of 64 bits with an optional sign. -/
private def int? (s : String) : Option Int :=
  match s.toList with
  | '-' :: ds => signed? (-1) ds
  | '+' :: ds => signed? 1 ds
  | ds => signed? 1 ds

private theorem signed?_iff {sign n : Int} {ds : List Char} :
    signed? sign ds = some n ↔ (Digits ds ∧ n = sign * Nat.ofDigitChars 10 ds 0) ∧ Fits n := by
  have all : (ds.isEmpty || !ds.all Char.isDigit) = false ↔ Digits ds := by
    rw [Bool.or_eq_false_iff, Bool.not_eq_false', List.isEmpty_eq_false_iff, List.all_eq_true]
    exact ⟨fun both => ⟨both.1, both.2⟩, fun digits => ⟨digits.filled, digits.all⟩⟩
  simp only [signed?, between_isDigit, foldl_value]
  by_cases digits : Digits ds
  · rw [all.mpr digits, if_neg Bool.false_ne_true, and_iff_right digits, Option.ite_none_right_eq_some]
    constructor
    · rintro ⟨fits, ⟨⟩⟩
      exact ⟨rfl, fits⟩
    · rintro ⟨rfl, fits⟩
      exact ⟨fits, rfl⟩
  · rw [if_pos ((Bool.not_eq_false _).mp (mt all.mp digits))]
    exact iff_of_false (fun none => nomatch none) fun both => digits both.1.1

theorem int?_iff {s : String} {n : Int} : int? s = some n ↔ Whole s.toList n ∧ Fits n := by
  unfold int?
  split
  · next ds typed =>
    rw [typed, whole_minus, ← Int.neg_one_mul (Nat.ofDigitChars 10 ds 0 : Int)]
    exact signed?_iff
  · next ds typed =>
    rw [typed, whole_plus, ← Int.one_mul (Nat.ofDigitChars 10 ds 0 : Int)]
    exact signed?_iff
  · next noMinus noPlus =>
    rw [whole_plain noMinus noPlus, ← Int.one_mul (Nat.ofDigitChars 10 s.toList 0 : Int)]
    exact signed?_iff

def ofText (s : String) : Setting :=
  let word := Text.lowerCase s
  if word = "true" then bool true
  else if word = "false" then bool false
  else
    match int? s with
    | some n => int n
    | none =>
      match Extended.read? s with
      | some x => float x
      | none => text s

def truthWords : List String := ["true", "false"]

private theorem ofText_eq {s : String} (other : Text.lowerCase s ∉ truthWords) :
    ofText s = ((int? s).map int).getD (((Extended.read? s).map float).getD (text s)) := by
  have notTrue : Text.lowerCase s ≠ "true" := fun same => other (by rw [same]; decide)
  have notFalse : Text.lowerCase s ≠ "false" := fun same => other (by rw [same]; decide)
  unfold ofText
  dsimp only
  rw [if_neg notTrue, if_neg notFalse]
  cases int? s with
  | some n => rfl
  | none => cases Extended.read? s <;> rfl

theorem ofText_int {s : String} (other : Text.lowerCase s ∉ truthWords) {n : Int}
    (whole : Whole s.toList n) (fits : Fits n) : ofText s = int n := by
  rw [ofText_eq other, int?_iff.mpr ⟨whole, fits⟩]
  rfl

/-- A whole number that does not fit is a number like any other. -/
theorem ofText_float {s : String} (other : Text.lowerCase s ∉ truthWords) {x : Extended}
    (typed : Typed s.toList x) (unfit : ∀ n, Whole s.toList n → ¬ Fits n) : ofText s = float x := by
  have none : int? s = none := Option.eq_none_iff_forall_ne_some.mpr fun n read =>
    unfit n (int?_iff.mp read).1 (int?_iff.mp read).2
  rw [ofText_eq other, none, Extended.read?_iff.mpr typed]
  rfl

theorem ofText_text {s : String} (other : Text.lowerCase s ∉ truthWords)
    (noNumber : ∀ x, ¬ Typed s.toList x) : ofText s = text s := by
  have noInt : int? s = none := Option.eq_none_iff_forall_ne_some.mpr fun n read =>
    (int?_iff.mp read).1.typed.elim noNumber
  have noFloat : Extended.read? s = none := Option.eq_none_iff_forall_ne_some.mpr fun x read =>
    noNumber x (Extended.read?_iff.mp read)
  rw [ofText_eq other, noInt, noFloat]
  rfl

def toText : Setting → String
  | bool true => "true"
  | bool false => "false"
  | int n => toString n
  | float x => x.render
  | text s => s

def wordValue? (s : String) : Option Bool :=
  let word := Text.lowerCase s
  if ["true", "on", "yes"].contains word then some true
  else if ["false", "off", "no"].contains word then some false
  else none

end Setting

inductive SettingFault
  | notBool (found : String)
  | notInt (found : String)
  | negative (found : Int)
  | tooLarge (found : Nat)
  | badUrl (fault : Web.UrlFault) (found : String)

namespace SettingFault

private def forKey (key : String) : String := " for key `" ++ key ++ "`"

def message (key : String) : SettingFault → String
  | notBool s => "invalid type: string " ++ Text.quoted s ++ ", expected a boolean" ++
      forKey key ++ " in the environment"
  | notInt s => "invalid type: string " ++ Text.quoted s ++ ", expected an integer" ++
      forKey key ++ " in the environment"
  | negative n => "invalid type: 64-bit integer `" ++ toString n ++
      "`, expected an unsigned 64 bit or less integer" ++ forKey key ++ " in the environment"
  | tooLarge n => "invalid type: 64-bit unsigned integer `" ++ toString n ++
      "`, expected an unsigned 16 bit integer" ++ forKey key
  | badUrl fault s => fault.message ++ ": " ++ Text.quoted s ++ forKey key

end SettingFault

namespace Setting

def toBool : Setting → Except SettingFault Bool
  | bool b => .ok b
  | int n => .ok (n != 0)
  | float x => .ok (!x.isZero)
  | text s =>
    match wordValue? s with
    | some b => .ok b
    | none => .error (.notBool (Text.lowerCase s))

def toNat64 : Setting → Except SettingFault Nat
  | bool b => .ok (if b then 1 else 0)
  | int n => if n < 0 then .error (.negative n) else .ok n.toNat
  | float x => .ok x.toNat64
  | text s =>
    match wordValue? s with
    | some b => .ok (if b then 1 else 0)
    | none => .error (.notInt s)

def toNat16 (v : Setting) : Except SettingFault Nat := do
  let n ← v.toNat64
  if n < 65536 then .ok n else .error (.tooLarge n)

def toUrl (v : Setting) : Except SettingFault Url :=
  match Url.readString v.toText with
  | .ok u => .ok u
  | .error fault => .error (.badUrl fault v.toText)

end Setting

structure Settings where
  isDebug : Bool
  hasApiDocs : Bool
  listenOn : Nat
  channelUrl : Url
  channelKey : Option String
  channelId : Option String
  /-- How long answers of the channel are kept, in seconds; at most 64 bits. -/
  cacheSeconds : Nat
  cacheFile : Option String
  storeUrl : Option Url
  storeKey : Option String
  /-- Where the mail about a forgotten password leads. -/
  resetRedirect : Option String

namespace Settings

def defaultChannelUrl : Url :=
  ⟨"https".toList, some ⟨[], "www.googleapis.com".toList, none⟩,
    .segments ["youtube".toList, "v3".toList], none, none⟩

/-- The value of the last variable that has the name of a setting. -/
private def value? (environment : List (String × String)) (key : String) : Option Setting :=
  let named := "app_" ++ key
  (environment.reverse.find? fun (name, _) => Text.lowerCase name = named).map fun (_, s) =>
    Setting.ofText s

theorem value?_eq (environment : List (String × String)) (key : String) :
    value? environment key =
      (environment.reverse.find? fun (name, _) => Text.lowerCase name = "app_" ++ key).map fun (_, s) =>
        Setting.ofText s := rfl

/-- The settings of an environment, or the first setting that cannot be used. -/
def ofEnvironment (environment : List (String × String)) : Except String Settings := do
  let given {α : Type} (key : String) (convert : Setting → Except SettingFault α) :
      Except String (Option α) :=
    match value? environment key with
    | none => .ok none
    | some v =>
      match convert v with
      | .ok a => .ok (some a)
      | .error fault => .error (fault.message key)
  let text (v : Setting) : Except SettingFault String := .ok v.toText
  let isDebug ← given "debug" Setting.toBool
  let hasApiDocs ← given "enable_swagger" Setting.toBool
  let listenOn ← given "port" Setting.toNat16
  let channelUrl ← given "youtube_api_base_url" Setting.toUrl
  let channelKey ← given "youtube_api_key" text
  let channelId ← given "youtube_channel_id" text
  let cacheSeconds ← given "youtube_cache_ttl_secs" Setting.toNat64
  let cacheFile ← given "youtube_cache_file" text
  let storeUrl ← given "supabase_url" Setting.toUrl
  let storeKey ← given "supabase_anon_key" text
  let resetRedirect ← given "password_reset_redirect" text
  .ok {
    isDebug := isDebug.getD false
    hasApiDocs := hasApiDocs.getD true
    listenOn := listenOn.getD 8080
    channelUrl := channelUrl.getD defaultChannelUrl
    channelKey, channelId
    cacheSeconds := cacheSeconds.getD 600
    cacheFile, storeUrl, storeKey, resetRedirect }

private def urlText (u : Url) : Json := .str (String.ofList u.toText)

def toJson (s : Settings) : Json :=
  .obj [("debug", .bool s.isDebug), ("enable_swagger", .bool s.hasApiDocs),
    ("port", .int s.listenOn), ("youtube_api_base_url", urlText s.channelUrl),
    ("youtube_api_key", Json.text? s.channelKey), ("youtube_channel_id", Json.text? s.channelId),
    ("youtube_cache_ttl_secs", .int s.cacheSeconds),
    ("youtube_cache_file", Json.text? s.cacheFile),
    ("supabase_url", s.storeUrl.elim .null urlText),
    ("supabase_anon_key", Json.text? s.storeKey),
    ("password_reset_redirect", Json.text? s.resetRedirect)]

/-- The seconds as a signed number of 64 bits. -/
def signedCacheSeconds (s : Settings) : Int := Int.bmod s.cacheSeconds (Nat.pow 2 64)

/-- How long answers of the channel are kept. There is no such time when its milliseconds do not fit
64 bits. -/
def cacheTtl? (s : Settings) : Option Time.Duration :=
  if s.signedCacheSeconds.natAbs ≤ 9223372036854775 then
    some (Time.Duration.ofSeconds s.signedCacheSeconds)
  else none

end Settings
end ParishSite
