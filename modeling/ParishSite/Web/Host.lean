import ParishSite.Text.Blank
import ParishSite.Text.LowerCase
import ParishSite.Web.Form
import ParishSite.Web.Punycode

/-! Hosts of addresses: names, which are written in lower-case ASCII, and numeric addresses of both
kinds, which are written in their shortest form. -/

namespace ParishSite.Web

inductive UrlFault
  | relative
  | emptyHost
  | badPort
  | badIpv4
  | badIpv6
  | badDomain
  | badHostCharacter
deriving DecidableEq

namespace UrlFault

def message : UrlFault → String
  | relative => "relative URL without a base"
  | emptyHost => "empty host"
  | badPort => "invalid port number"
  | badIpv4 => "invalid IPv4 address"
  | badIpv6 => "invalid IPv6 address"
  | badDomain => "invalid international domain name"
  | badHostCharacter => "invalid domain character"

end UrlFault

namespace Host

/-- The parts of a text between separators; there is always at least one. -/
def splitOn (isSeparator : Char → Bool) : List Char → List (List Char)
  | [] => [[]]
  | c :: rest =>
    if isSeparator c then [] :: splitOn isSeparator rest
    else
      match splitOn isSeparator rest with
      | part :: more => (c :: part) :: more
      | [] => [[c]]

private def digitsIn (base : Nat) (s : List Char) : Option Nat :=
  s.foldlM (fun n c => do
    let d ← hexValue? c
    if d < base then some (n * base + d) else none) 0

/-- A number of a numeric address: octal after `0`, hexadecimal after `0x`. -/
def ipv4Number? (s : List Char) : Option Nat :=
  match s with
  | [] => none
  | '0' :: 'x' :: rest | '0' :: 'X' :: rest => digitsIn 16 rest
  | '0' :: c :: rest => digitsIn 8 (c :: rest)
  | s => digitsIn 10 s

/-- Whether a name is meant as a numeric address. -/
def endsInNumber (s : List Char) : Bool :=
  let labels := splitOn (· = '.') s
  let last? := match labels.reverse with
    | [] :: before :: _ => some before
    | [[]] | [] => none
    | last :: _ => some last
  match last? with
  | none => false
  | some last => (!last.isEmpty && last.all Char.isDigit) || (ipv4Number? last).isSome

/-- The numbers of an address as one number; the last one fills the places of those left out. -/
private def joinIpv4 : List Nat → Nat → Option Nat
  | [], _ => none
  | [last], places => if last < 256 ^ places then some last else none
  | n :: rest, places => do
    let low ← joinIpv4 rest (places - 1)
    if n < 256 then some (n * 256 ^ (places - 1) + low) else none

def ipv4? (s : List Char) : Option Nat := do
  let labels := splitOn (· = '.') s
  let labels := if labels.getLast? = some [] then labels.dropLast else labels
  if labels.length > 4 then none
  else joinIpv4 (← labels.mapM ipv4Number?) 4

private def decimal (n : Nat) : List Char := Nat.toDigits 10 n

def ipv4Text (n : Nat) : List Char :=
  decimal (n / 16777216 % 256) ++ '.' :: decimal (n / 65536 % 256) ++
    '.' :: decimal (n / 256 % 256) ++ '.' :: decimal (n % 256)

private def ipv6Group? (s : List Char) : Option Nat :=
  if 1 ≤ s.length ∧ s.length ≤ 4 then digitsIn 16 s else none

private def strictByte? (s : List Char) : Option Nat := do
  let n ← if s.isEmpty || !s.all Char.isDigit || (s.head? = some '0' && s.length > 1) then none
    else digitsIn 10 s
  if n < 256 then some n else none

/-- The groups of a part of an address; the last one may be a dotted address of four bytes. -/
private def ipv6Groups? (mayEndDotted : Bool) (s : List Char) : Option (List Nat) :=
  let rec go : List (List Char) → Option (List Nat)
    | [] => some []
    | [last] =>
      if mayEndDotted && last.contains '.' then do
        match ← (splitOn (· = '.') last).mapM strictByte? with
        | [a, b, c, d] => some [a * 256 + b, c * 256 + d]
        | _ => none
      else (ipv6Group? last).map ([·])
    | g :: rest => do some ((← ipv6Group? g) :: (← go rest))
  if s.isEmpty then some [] else go (splitOn (· = ':') s)

/-- Splits a text at its first pair of colons. -/
private def atDoubleColon : List Char → Option (List Char × List Char)
  | ':' :: ':' :: rest => some ([], rest)
  | c :: rest => (atDoubleColon rest).map fun (before, after) => (c :: before, after)
  | [] => none

def ipv6? (s : List Char) : Option (List Nat) :=
  match atDoubleColon s with
  | none => do
    let groups ← ipv6Groups? true s
    if groups.length = 8 then some groups else none
  | some (before, after) => do
    let first ← ipv6Groups? false before
    let last ← ipv6Groups? true after
    let given := first.length + last.length
    if given ≤ 7 then some (first ++ List.replicate (8 - given) 0 ++ last) else none

private def leadingZeros (groups : List Nat) : Nat := (groups.takeWhile (· = 0)).length

/-- The start and length of the first of the longest runs of zeros. -/
private def longestRun : List Nat → Nat → Nat × Nat
  | [], spot => (spot, 0)
  | g :: rest, spot =>
    let here := leadingZeros (g :: rest)
    let (later, length) := longestRun rest (spot + 1)
    if length ≤ here then (spot, here) else (later, length)

private def joined (groups : List Nat) : List Char :=
  ":".toList.intercalate (groups.map (Nat.toDigits 16))

def ipv6Text (groups : List Nat) : List Char :=
  let (spot, length) := longestRun groups 0
  if length < 2 then joined groups
  else joined (groups.take spot) ++ ':' :: ':' :: joined (groups.drop (spot + length))

/-- The character of a name that another one is written for, if it counts at all. -/
private def mapped (c : Char) : List Char :=
  let n := c.toNat
  if n = 0xad ∨ n = 0x200b ∨ n = 0x2060 ∨ n = 0xfeff ∨ (0xfe00 ≤ n ∧ n ≤ 0xfe0f) then []
  else if n = 0x3002 ∨ n = 0xff61 then ['.']
  else if 0xff01 ≤ n ∧ n ≤ 0xff5e then [(Char.ofNat (n - 0xfee0)).toLower]
  else Text.lowerChar c

private def isForbidden (c : Char) : Bool :=
  c.toNat ≤ 32 || (127 ≤ c.toNat && c.toNat < 160) || "%#/:<>?@[\\]^|".toList.contains c ||
    Text.isBlank c

/-- A character that may stand in an encoded label: one that is written for itself. -/
private def isSettled (c : Char) : Bool := mapped c == [c] && !isForbidden c

private def labelText? (label : List Char) : Option (List Char) :=
  if label.all fun c => c.toNat < 128 then
    match label with
    | 'x' :: 'n' :: '-' :: '-' :: coded =>
      match Punycode.decode? coded with
      | some decoded =>
        if decoded.all isSettled && decoded.any fun c => 128 ≤ c.toNat then some label else none
      | none => none
    | _ => some label
  else some ("xn--".toList ++ Punycode.encode label)

def domain? (s : List Char) : Option (List Char) := do
  let chars ← Text.Utf8.decode? (percentDecode s)
  let chars := chars.flatMap mapped
  if chars.any isForbidden then none
  else some (".".toList.intercalate (← (splitOn (· = '.') chars).mapM labelText?))

private def bracketed (s : List Char) : Except UrlFault (List Char) :=
  match s.reverse with
  | ']' :: inner =>
    match ipv6? inner.reverse with
    | some groups => .ok ('[' :: ipv6Text groups ++ [']'])
    | none => .error .badIpv6
  | _ => .error .badIpv6

/-- The host of an address that names a server of a known kind, as it is written. -/
def read (s : List Char) : Except UrlFault (List Char) :=
  match s with
  | '[' :: rest => bracketed rest
  | s =>
    match domain? s with
    | none => .error .badDomain
    | some [] => .error .emptyHost
    | some name =>
      if endsInNumber name then
        match ipv4? name with
        | some n => .ok (ipv4Text n)
        | none => .error .badIpv4
      else .ok name

/-- Escapes control characters and what is not ASCII. -/
def escapeControls (s : List Char) : List Char :=
  s.flatMap fun c =>
    if c.toNat < 32 || 126 < c.toNat then (Text.Utf8.encodeChar c).flatMap percentByte else [c]

def readUnknown (s : List Char) : Except UrlFault (List Char) :=
  match s with
  | '[' :: rest => bracketed rest
  | s =>
    if s.any fun c => c.toNat = 0 || "\t\n\r #/:<>?@[\\]^|".toList.contains c then
      .error .badHostCharacter
    else .ok (escapeControls s)

end Host
end ParishSite.Web
