import ParishSite.Json.Fault
import ParishSite.Text.Utf8

/-! The strings and numbers of JSON text. A token can be read for its value or only be passed over.
Passing over is more lenient: it does not pair surrogates, does not ask whether bytes form characters,
and takes a number of any size. Where reading succeeds, passing over ends at the same place. -/

namespace ParishSite.Json

open Text.Utf8 (Symbol)
open Number (Binary64)

/-- What a string contains, before surrogates are paired. -/
inductive Piece
  | symbol (s : Symbol)
  | unit (code : Nat)

/-- How a string ends: at its quote, or at the place where it cannot go on. -/
inductive StringEnd
  | closed (rest : List Symbol)
  | endOfText
  | control
  | unknownLetter
  | unknownDigits

def hexDigit? : Symbol → Option Nat
  | some c =>
    if '0' ≤ c ∧ c ≤ '9' then some (c.toNat - 48)
    else if 'a' ≤ c ∧ c ≤ 'f' then some (c.toNat - 87)
    else if 'A' ≤ c ∧ c ≤ 'F' then some (c.toNat - 55)
    else none
  | none => none

def escaped? : Symbol → Option Char
  | some c =>
    if c = '"' ∨ c = '\\' ∨ c = '/' then some c
    else if c = 'n' then some '\n'
    else if c = 'r' then some '\r'
    else if c = 't' then some '\t'
    else if c = 'b' then some (Char.ofNat 8)
    else if c = 'f' then some (Char.ofNat 12)
    else none
  | none => none

private def byteCount (s : List Symbol) : Nat :=
  (s.map fun | some c => Text.Utf8.charSize c | none => 1).foldr (· + ·) 0

/-- Four hexadecimal digits that are not there: either the text ends, or other bytes stand there. -/
private def noDigits (s : List Symbol) : StringEnd :=
  if byteCount s < 4 then .endOfText else .unknownDigits

/-- The contents of a string after its opening quote, and how it ends. -/
def stringBody : List Symbol → List Piece × StringEnd
  | [] => ([], .endOfText)
  | none :: rest =>
    let (pieces, ending) := stringBody rest
    (.symbol none :: pieces, ending)
  | some c :: rest =>
    if c = '"' then ([], .closed rest)
    else if c = '\\' then
      match rest with
      | [] => ([], .endOfText)
      | letter :: rest =>
        if letter = some 'u' then
          match rest with
          | d₁ :: d₂ :: d₃ :: d₄ :: rest =>
            match hexDigit? d₁, hexDigit? d₂, hexDigit? d₃, hexDigit? d₄ with
            | some h₁, some h₂, some h₃, some h₄ =>
              let (pieces, ending) := stringBody rest
              (.unit (((h₁ * 16 + h₂) * 16 + h₃) * 16 + h₄) :: pieces, ending)
            | _, _, _, _ => ([], noDigits (d₁ :: d₂ :: d₃ :: d₄ :: rest))
          | few => ([], noDigits few)
        else
          match escaped? letter with
          | some e =>
            let (pieces, ending) := stringBody rest
            (.symbol (some e) :: pieces, ending)
          | none => ([], .unknownLetter)
    else if c.toNat < 32 then ([], .control)
    else
      let (pieces, ending) := stringBody rest
      (.symbol (some c) :: pieces, ending)

namespace StringEnd

def passed : StringEnd → Except SyntaxFault (List Symbol)
  | closed rest => .ok rest
  | endOfText => .error .endInString
  | control => .error .controlCharacter
  | unknownLetter => .error .unknownEscape
  | unknownDigits => .error .unknownEscape

/-- The fault of a leading surrogate that stands right before the end. -/
def afterSurrogate : StringEnd → SyntaxFault
  | endOfText => .endInString
  | unknownDigits => .unknownEscape
  | closed _ | control | unknownLetter => .unpairedSurrogate

end StringEnd

/-- The symbols of a string, with surrogates paired into the characters that they stand for. -/
def paired : List Piece → StringEnd → Except SyntaxFault (List Symbol)
  | [], ending => ending.passed.map fun _ => []
  | .symbol s :: rest, ending => (paired rest ending).map (s :: ·)
  | .unit n :: rest, ending =>
    if 0xdc00 ≤ n ∧ n ≤ 0xdfff then .error .loneSurrogate
    else if 0xd800 ≤ n ∧ n ≤ 0xdbff then
      match rest with
      | [] => .error ending.afterSurrogate
      | .symbol _ :: _ => .error .unpairedSurrogate
      | .unit m :: rest =>
        if 0xdc00 ≤ m ∧ m ≤ 0xdfff then
          let c := Char.ofNat (0x10000 + (n - 0xd800) * 1024 + (m - 0xdc00))
          (paired rest ending).map (some c :: ·)
        else .error .loneSurrogate
    else (paired rest ending).map (some (Char.ofNat n) :: ·)

def stringText (pieces : List Piece) (ending : StringEnd) : Except SyntaxFault String := do
  let symbols ← paired pieces ending
  match symbols.mapM id with
  | some chars => .ok (String.ofList chars)
  | none => .error .illFormedText

inductive Numeral
  | int (n : Int)
  | float (x : Binary64)

structure Lexeme where
  negative : Bool
  whole : List Nat
  fraction : List Nat
  /-- The digits of the power of ten, and whether it is negative. -/
  power : Option (Bool × List Nat)

def digit? : Symbol → Option Nat
  | some c => if '0' ≤ c ∧ c ≤ '9' then some (c.toNat - 48) else none
  | none => none

def digitRun : List Symbol → List Nat × List Symbol
  | [] => ([], [])
  | s :: rest =>
    match digit? s with
    | some d =>
      let (ds, rest) := digitRun rest
      (d :: ds, rest)
    | none => ([], s :: rest)

/-- Why a number cannot go on: the text ends, or another symbol stands there. -/
inductive NumeralEnd
  | endOfText
  | otherSymbol

private def broken (s : List Symbol) : NumeralEnd :=
  if s.isEmpty then .endOfText else .otherSymbol

def neededDigits (s : List Symbol) : Except NumeralEnd (List Nat × List Symbol) :=
  match digitRun s with
  | ([], rest) => .error (broken rest)
  | found => .ok found

def wholePart (s : List Symbol) : Except NumeralEnd (List Nat × List Symbol) := do
  match ← neededDigits s with
  | (0 :: _ :: _, _) => .error .otherSymbol
  | found => .ok found

def fractionPart (s : List Symbol) : Except NumeralEnd (List Nat × List Symbol) :=
  match s with
  | some '.' :: rest => neededDigits rest
  | _ => .ok ([], s)

def powerPart (s : List Symbol) :
    Except NumeralEnd (Option (Bool × List Nat) × List Symbol) :=
  let after (rest : List Symbol) := do
    let (negative, rest) := match rest with
      | some '+' :: rest => (false, rest)
      | some '-' :: rest => (true, rest)
      | _ => (false, rest)
    let (digits, rest) ← neededDigits rest
    .ok (some (negative, digits), rest)
  match s with
  | some 'e' :: rest => after rest
  | some 'E' :: rest => after rest
  | _ => .ok (none, s)

def lexeme (s : List Symbol) : Except NumeralEnd (Lexeme × List Symbol) := do
  let (negative, s) := match s with
    | some '-' :: rest => (true, rest)
    | _ => (false, s)
  let (whole, s) ← wholePart s
  let (fraction, s) ← fractionPart s
  let (power, s) ← powerPart s
  .ok (⟨negative, whole, fraction, power⟩, s)

namespace Lexeme

def limit : Nat := Nat.pow 2 64

/-- Takes digits into a significand below `2 ^ 64`, and counts those that no longer fit. -/
def gather (significand : Nat) : List Nat → Nat × Nat
  | [] => (significand, 0)
  | d :: rest =>
    if significand * 10 + d < limit then gather (significand * 10 + d) rest
    else (significand, rest.length + 1)

private def number (digits : List Nat) : Nat := digits.foldl (fun n d => n * 10 + d) 0

private def float (negative : Bool) (significand : Nat) (exponent : Int) :
    Except SyntaxFault Numeral :=
  match Binary64.ofParts? negative significand exponent with
  | some x => .ok (.float x)
  | none => .error .numberTooLarge

/-- The number that was written. A whole number that fits 64 bits is an integer. -/
def value (l : Lexeme) : Except SyntaxFault Numeral :=
  let (whole, dropped) := gather 0 l.whole
  if dropped == 0 && l.fraction.isEmpty && l.power.isNone then
    if !l.negative then .ok (.int whole)
    else if 0 < whole && whole ≤ Nat.pow 2 63 then .ok (.int (-(whole : Int)))
    else float true whole 0
  else
    let (significand, unused) := gather whole l.fraction
    let exponent : Int := dropped - (l.fraction.length - unused : Nat)
    match l.power with
    | none => float l.negative significand exponent
    | some (negative, digits) =>
      let power := number digits
      if power > 2147483647 then
        if significand != 0 && !negative then .error .numberTooLarge
        else .ok (.float (Binary64.zero l.negative))
      else float l.negative significand (if negative then exponent - power else exponent + power)

end Lexeme
end ParishSite.Json
