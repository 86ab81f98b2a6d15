import ParishSite.Text.Blank
import ParishSite.Text.LowerCase

/-! Readable names in the letters a to z, digits and hyphens, for file names and keys. A key is a slug
with six random characters behind it, so that equal labels get different keys. -/

namespace ParishSite

namespace Slug

def isSlugChar (c : Char) : Bool := ('a' ≤ c && c ≤ 'z') || ('0' ≤ c && c ≤ '9')

/-- Puts one hyphen for each run of other characters; `inRun` says that the run has its hyphen. -/
def hyphenated (inRun : Bool) : List Char → List Char
  | [] => []
  | c :: rest =>
    if isSlugChar c then c :: hyphenated false rest
    else if inRun then hyphenated true rest
    else '-' :: hyphenated true rest

def trimHyphens (s : List Char) : List Char :=
  ((s.dropWhile (· = '-')).reverse.dropWhile (· = '-')).reverse

def maxLength : Nat := 40

def ofChars (s : List Char) : List Char :=
  (trimHyphens (hyphenated false (Text.lower (Text.trim s)))).take maxLength

end Slug

def slug (s : String) : String := String.ofList (Slug.ofChars s.toList)

/-- Six draws of a digit or a letter. -/
structure KeySuffix where
  draws : List (Fin 36)
  count : draws.length = 6

namespace KeySuffix

def char (draw : Fin 36) : Char :=
  if draw.val < 10 then Char.ofNat (48 + draw.val) else Char.ofNat (87 + draw.val)

def chars (s : KeySuffix) : List Char := s.draws.map char

end KeySuffix

/-- The key of a label, or of a fallback where the label has nothing to show. -/
def keyFor (label fallback : String) (suffix : KeySuffix) : String :=
  let base := if slug label = "" then fallback else slug label
  base ++ "-" ++ String.ofList suffix.chars

end ParishSite
