import ParishSite.Text.Blank
import ParishSite.Text.Utf8

/-! Long lines in pieces of at most 75 bytes, as calendar files want them. No character is cut in two,
and the pieces put together again are the line. A cut steps back one place where the character counted
off by the same number is white space. -/

namespace ParishSite.Text.Fold

open Utf8 (charSize size)

def width : Nat := 75

/-- Whether a character starts at a byte of the line, or the line ends there. -/
def isBoundary : List Char → Nat → Bool
  | _, 0 => true
  | [], _ + 1 => false
  | c :: rest, n => charSize c ≤ n && isBoundary rest (n - charSize c)

def blankAt (text : List Char) (index : Nat) : Bool := (text[index]?).any isBlank

def stepBack (text : List Char) (n : Nat) : Nat := if blankAt text n then n - 1 else n

/-- The nearest boundary at or before a byte that the steps lead to. -/
def settle (text : List Char) (n : Nat) : Nat :=
  if h : isBoundary text n then n else settle text (stepBack text (n - 1))
termination_by n
decreasing_by
  have : n ≠ 0 := by rintro rfl; simp [isBoundary] at h
  unfold stepBack
  split <;> omega

/-- Splits off as many bytes, all of whole characters. -/
def splitBytes : Nat → List Char → List Char × List Char
  | _, [] => ([], [])
  | n, c :: rest =>
    if charSize c ≤ n then
      let (taken, left) := splitBytes (n - charSize c) rest
      (c :: taken, left)
    else ([], c :: rest)

/-- The pieces of what is left of a line after `start` bytes; `next` is where the first cut is tried,
and `fuel` bounds the number of cuts. -/
def pieces (text : List Char) (start next : Nat) : Nat → List Char → List (List Char)
  | 0, left => [left]
  | fuel + 1, left =>
    if size left ≤ width then [left]
    else
      let cut := settle text (stepBack text next)
      let (piece, left) := splitBytes (cut - start) left
      piece :: pieces text cut (cut + width - 1) fuel left

/-- The line, with a line break and a space between its pieces. -/
def fold (text : List Char) : List Char :=
  ['\r', '\n', ' '].intercalate (pieces text 0 width text.length text)

end ParishSite.Text.Fold
