/-! UTF-8 as it arrives: bytes are read into characters, and bytes that belong to no character are
kept apart. A text that came as bytes is a list of symbols, `some c` for a character and `none` for
a byte that belongs to none. -/

namespace ParishSite.Text.Utf8

/-- A character, or a byte that belongs to none. -/
abbrev Symbol := Option Char

def encodeChar (c : Char) : List UInt8 :=
  let n := c.toNat
  if n < 0x80 then [UInt8.ofNat n]
  else if n < 0x800 then [UInt8.ofNat (0xc0 + n / 64), UInt8.ofNat (0x80 + n % 64)]
  else if n < 0x10000 then
    [UInt8.ofNat (0xe0 + n / 4096), UInt8.ofNat (0x80 + n / 64 % 64), UInt8.ofNat (0x80 + n % 64)]
  else
    [UInt8.ofNat (0xf0 + n / 262144), UInt8.ofNat (0x80 + n / 4096 % 64),
      UInt8.ofNat (0x80 + n / 64 % 64), UInt8.ofNat (0x80 + n % 64)]

def encode (s : List Char) : List UInt8 := s.flatMap encodeChar

def charSize (c : Char) : Nat :=
  let n := c.toNat
  if n < 0x80 then 1 else if n < 0x800 then 2 else if n < 0x10000 then 3 else 4

def size (s : List Char) : Nat := (s.map charSize).foldr (· + ·) 0

def isTail (b : UInt8) : Bool := 0x80 ≤ b && b < 0xc0

/-- What the first byte of a character promises: how many more bytes follow, the range of the first
of them, and the bits that the first byte itself gives. -/
structure Lead where
  more : Nat
  low : UInt8
  high : UInt8
  bits : Nat

def lead? (b : UInt8) : Option Lead :=
  let n := b.toNat
  if n < 0xc2 then none
  else if n < 0xe0 then some ⟨1, 0x80, 0xbf, n - 0xc0⟩
  else if n == 0xe0 then some ⟨2, 0xa0, 0xbf, 0⟩
  else if n == 0xed then some ⟨2, 0x80, 0x9f, 13⟩
  else if n < 0xf0 then some ⟨2, 0x80, 0xbf, n - 0xe0⟩
  else if n == 0xf0 then some ⟨3, 0x90, 0xbf, 0⟩
  else if n < 0xf4 then some ⟨3, 0x80, 0xbf, n - 0xf0⟩
  else if n == 0xf4 then some ⟨3, 0x80, 0x8f, 4⟩
  else none

/-- One step of reading: a character, or the longest start of one that does not go on as it must. -/
inductive Piece
  | char (c : Char)
  | illFormed (length : Nat)

/-- The piece at the head of the bytes and how many bytes it takes. -/
def piece (b : UInt8) (rest : List UInt8) : Piece × Nat :=
  if b < 0x80 then (.char (Char.ofNat b.toNat), 1)
  else
    match lead? b with
    | none => (.illFormed 1, 1)
    | some l =>
      match rest with
      | c :: rest₁ =>
        if !(l.low ≤ c && c ≤ l.high) then (.illFormed 1, 1)
        else
          let v₁ := l.bits * 64 + c.toNat % 64
          if l.more == 1 then (.char (Char.ofNat v₁), 2)
          else
            match rest₁ with
            | d :: rest₂ =>
              if !isTail d then (.illFormed 2, 2)
              else
                let v₂ := v₁ * 64 + d.toNat % 64
                if l.more == 2 then (.char (Char.ofNat v₂), 3)
                else
                  match rest₂ with
                  | e :: _ =>
                    if !isTail e then (.illFormed 3, 3)
                    else (.char (Char.ofNat (v₂ * 64 + e.toNat % 64)), 4)
                  | [] => (.illFormed 3, 3)
            | [] => (.illFormed 2, 2)
      | [] => (.illFormed 1, 1)

/-- Splits bytes into characters and ill-formed runs; `skip` bytes belong to the piece before. -/
def piecesAfter (skip : Nat) : List UInt8 → List Piece
  | [] => []
  | b :: rest =>
    match skip with
    | skip + 1 => piecesAfter skip rest
    | 0 =>
      let (p, taken) := piece b rest
      p :: piecesAfter (taken - 1) rest

def pieces (bytes : List UInt8) : List Piece := piecesAfter 0 bytes

/-- The text of the bytes, with every byte that belongs to no character kept as `none`. -/
def symbols (bytes : List UInt8) : List Symbol :=
  (pieces bytes).flatMap fun
    | .char c => [some c]
    | .illFormed n => List.replicate n none

/-- The text of the bytes if all of them belong to characters. -/
def decode? (bytes : List UInt8) : Option (List Char) :=
  (pieces bytes).mapM fun
    | .char c => some c
    | .illFormed _ => none

/-- The text of the bytes, with a replacement character for each ill-formed run. -/
def decodeLossy (bytes : List UInt8) : List Char :=
  (pieces bytes).map fun
    | .char c => c
    | .illFormed _ => Char.ofNat 0xfffd

def ofChars (s : List Char) : List Symbol := s.map some

end ParishSite.Text.Utf8
