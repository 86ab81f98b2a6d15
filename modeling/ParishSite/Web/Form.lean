import ParishSite.Text.Utf8

/-! Pairs of names and values as a query string. Letters, digits and `*`, `-`, `.`, `_` stand for
themselves, a plus sign stands for a space, and every other byte is written as two hexadecimal digits
after a percent sign. Reading takes any text and gives back every pair that writing puts in. -/

namespace ParishSite.Web

def hexChar (n : Nat) : Char := if n < 10 then Char.ofNat (48 + n) else Char.ofNat (55 + n)

def hexValue? (c : Char) : Option Nat :=
  if '0' ≤ c ∧ c ≤ '9' then some (c.toNat - 48)
  else if 'a' ≤ c ∧ c ≤ 'f' then some (c.toNat - 87)
  else if 'A' ≤ c ∧ c ≤ 'F' then some (c.toNat - 55)
  else none

/-- A byte as two hexadecimal digits after a percent sign. -/
def percentByte (b : UInt8) : List Char :=
  ['%', hexChar (b.toNat / 16), hexChar (b.toNat % 16)]

/-- The bytes of a text in which percent signs before two hexadecimal digits stand for a byte. -/
def percentDecode : List Char → List UInt8
  | [] => []
  | '%' :: h :: l :: rest =>
    match hexValue? h, hexValue? l with
    | some h, some l => UInt8.ofNat (h * 16 + l) :: percentDecode rest
    | _, _ => UInt8.ofNat 37 :: percentDecode (h :: l :: rest)
  | c :: rest => Text.Utf8.encodeChar c ++ percentDecode rest

namespace Form

def isKept (b : UInt8) : Bool :=
  let n := b.toNat
  (48 ≤ n && n ≤ 57) || (65 ≤ n && n ≤ 90) || (97 ≤ n && n ≤ 122) || n == 42 || n == 45 ||
    n == 46 || n == 95

def encodeByte (b : UInt8) : List Char :=
  if isKept b then [Char.ofNat b.toNat] else if b.toNat == 32 then ['+'] else percentByte b

def encodeText (s : String) : List Char := (Text.Utf8.encode s.toList).flatMap encodeByte

def encodePair (pair : String × String) : List Char :=
  encodeText pair.1 ++ '=' :: encodeText pair.2

/-- The pairs, with an ampersand between neighbours. -/
def encode : List (String × String) → List Char
  | [] => []
  | [pair] => encodePair pair
  | pair :: rest => encodePair pair ++ '&' :: encode rest

def plusToSpace (s : List Char) : List Char :=
  s.map fun c => if c = '+' then ' ' else c

def decodeText (s : List Char) : String :=
  String.ofList (Text.Utf8.decodeLossy (percentDecode (plusToSpace s)))

/-- A pair; without an equals sign the value is empty. -/
def decodePair (s : List Char) : String × String :=
  (decodeText (s.takeWhile (· ≠ '=')), decodeText ((s.dropWhile (· ≠ '=')).drop 1))

def parts : List Char → List (List Char)
  | [] => [[]]
  | c :: rest =>
    if c = '&' then [] :: parts rest
    else
      match parts rest with
      | part :: more => (c :: part) :: more
      | [] => [[c]]

/-- All pairs of a query string; empty parts are passed over. -/
def decode (s : List Char) : List (String × String) :=
  ((parts s).filter fun part => !part.isEmpty).map decodePair

end Form
end ParishSite.Web
