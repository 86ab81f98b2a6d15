import ParishSite.Json.Token
import ParishSite.Json.Basic

/-! A JSON text followed as far as it goes. Where the text cannot go on, the tree holds the fault, so
that a later reader, who goes through the tree from left to right, meets the first thing that is
wrong, be it in the text or in what the text says. Some faults are answered differently when the part
that holds them is only passed over. -/

namespace ParishSite.Json

open Text.Utf8 (Symbol)

/-- Why a list or an object cannot go on after what it holds so far. -/
inductive Stuck
  | endOfText
  | commaThenEnd
  | commaThenClose
  | noComma

mutual

inductive Node
  | null
  | bool (value : Bool)
  | number (value : Except SyntaxFault Numeral)
  | str (text : Except SyntaxFault String)
  | list (items : Items)
  | object (members : Members)
  /-- The text ends where a value should stand. -/
  | absent
  /-- A string that cannot be followed, with its fault when it is read and when it is passed over. -/
  | brokenStr (read passed : SyntaxFault)
  /-- Another value that cannot be followed. -/
  | broken (read passed : SyntaxFault)

inductive Items
  | done
  | stuck (why : Stuck)
  | item (value : Node) (rest : Items)

inductive Members
  | done
  | stuck (why : Stuck)
  /-- Something that is no string stands where a key must. -/
  | stray (value : Node)
  | brokenKey (read passed : SyntaxFault)
  | member (key : Except SyntaxFault String) (value : Node) (rest : Members)

end

namespace Stuck

def inList : Stuck → SyntaxFault
  | endOfText => .endInList
  | commaThenEnd => .endInValue
  | commaThenClose => .trailingComma
  | noComma => .expectedCommaOrBracket

/-- The fault of a list that is passed over. -/
def inPassedList : Stuck → SyntaxFault
  | endOfText => .endInList
  | commaThenEnd => .endInValue
  | commaThenClose => .expectedValue
  | noComma => .expectedCommaOrBracket

def afterList : Stuck → SyntaxFault
  | endOfText => .endInList
  | commaThenEnd => .trailingCharacters
  | commaThenClose => .trailingComma
  | noComma => .trailingCharacters

def inObject : Stuck → SyntaxFault
  | endOfText => .endInObject
  | commaThenEnd => .endInValue
  | commaThenClose => .trailingComma
  | noComma => .expectedCommaOrBrace

/-- The fault of an object that is passed over. -/
def inPassedObject : Stuck → SyntaxFault
  | endOfText => .endInObject
  | commaThenEnd => .endInObject
  | commaThenClose => .keyNotString
  | noComma => .expectedCommaOrBrace

/-- The fault of an object that should have ended after its only member. -/
def afterVariant : Stuck → SyntaxFault
  | endOfText => .endInObject
  | commaThenEnd | commaThenClose | noComma => .expectedValue

end Stuck

def isSpace : Symbol → Bool
  | some c => c = ' ' || c = '\n' || c = '\t' || c = '\r'
  | none => false

def skipSpace (s : List Symbol) : List Symbol := s.dropWhile isSpace

/-- What follows `letters` at the head of a text. -/
def afterWord : List Char → List Symbol → Except SyntaxFault (List Symbol)
  | [], s => .ok s
  | _ :: _, [] => .error .endInValue
  | c :: letters, s :: rest => if s = some c then afterWord letters rest else .error .expectedWord

def wordNode (letters : List Char) (node : Node) (s : List Symbol) :
    Node × Option (List Symbol) :=
  match afterWord letters s with
  | .ok rest => (node, some rest)
  | .error fault => (.broken fault fault, none)

def stringNode (s : List Symbol) : Node × Option (List Symbol) :=
  let (pieces, ending) := stringBody s
  match stringText pieces ending, ending.passed with
  | text, .ok rest => (.str text, some rest)
  | .error read, .error passed => (.brokenStr read passed, none)
  | .ok _, .error passed => (.brokenStr passed passed, none)

def numberNode (s : List Symbol) : Node × Option (List Symbol) :=
  match lexeme s with
  | .ok (l, rest) => (.number l.value, some rest)
  | .error .endOfText => (.broken .endInValue .malformedNumber, none)
  | .error .otherSymbol => (.broken .malformedNumber .malformedNumber, none)

def startsNumber (c : Char) : Bool := c = '-' || (digit? (some c)).isSome

mutual

/-- The value at the head of a text and, if it can be followed to its end, what comes after it. -/
def nodeAt : Nat → List Symbol → Node × Option (List Symbol)
  | 0, _ => (.absent, none)
  | fuel + 1, s =>
    match skipSpace s with
    | [] => (.absent, none)
    | none :: _ => (.broken .expectedValue .expectedValue, none)
    | some c :: rest =>
      if c = 'n' then wordNode ['u', 'l', 'l'] .null rest
      else if c = 't' then wordNode ['r', 'u', 'e'] (.bool true) rest
      else if c = 'f' then wordNode ['a', 'l', 's', 'e'] (.bool false) rest
      else if c = '"' then stringNode rest
      else if startsNumber c then numberNode (some c :: rest)
      else if c = '[' then
        match skipSpace rest with
        | [] => (.list (.stuck .endOfText), none)
        | some ']' :: rest => (.list .done, some rest)
        | inside =>
          let (items, rest) := itemsAt fuel inside
          (.list items, rest)
      else if c = '\x7b' then
        match skipSpace rest with
        | [] => (.object (.stuck .endOfText), none)
        | some '\x7d' :: rest => (.object .done, some rest)
        | inside =>
          let (members, rest) := membersAt fuel inside
          (.object members, rest)
      else (.broken .expectedValue .expectedValue, none)

def itemsAt : Nat → List Symbol → Items × Option (List Symbol)
  | 0, _ => (.stuck .endOfText, none)
  | fuel + 1, s =>
    match nodeAt fuel s with
    | (value, none) => (.item value (.stuck .endOfText), none)
    | (value, some rest) =>
      match skipSpace rest with
      | [] => (.item value (.stuck .endOfText), none)
      | some ']' :: rest => (.item value .done, some rest)
      | some ',' :: rest =>
        match skipSpace rest with
        | [] => (.item value (.stuck .commaThenEnd), none)
        | some ']' :: _ => (.item value (.stuck .commaThenClose), none)
        | inside =>
          let (items, rest) := itemsAt fuel inside
          (.item value items, rest)
      | _ => (.item value (.stuck .noComma), none)

def membersAt : Nat → List Symbol → Members × Option (List Symbol)
  | 0, _ => (.stuck .endOfText, none)
  | fuel + 1, s =>
    match s with
    | some '"' :: rest =>
      let (pieces, ending) := stringBody rest
      match stringText pieces ending, ending.passed with
      | .error read, .error passed => (.brokenKey read passed, none)
      | .ok _, .error passed => (.brokenKey passed passed, none)
      | key, .ok rest =>
        match skipSpace rest with
        | [] => (.member key (.broken .endInObject .endInObject) (.stuck .endOfText), none)
        | some ':' :: rest =>
          match nodeAt fuel rest with
          | (value, none) => (.member key value (.stuck .endOfText), none)
          | (value, some rest) =>
            match skipSpace rest with
            | [] => (.member key value (.stuck .endOfText), none)
            | some '\x7d' :: rest => (.member key value .done, some rest)
            | some ',' :: rest =>
              match skipSpace rest with
              | [] => (.member key value (.stuck .commaThenEnd), none)
              | some '\x7d' :: _ => (.member key value (.stuck .commaThenClose), none)
              | inside =>
                let (members, rest) := membersAt fuel inside
                (.member key value members, rest)
            | _ => (.member key value (.stuck .noComma), none)
        | _ => (.member key (.broken .expectedColon .expectedColon) (.stuck .endOfText), none)
    | other => (.stray (nodeAt fuel other).1, none)

end

/-- The whole text as a tree, with what follows the value. -/
def Node.ofText (s : List Symbol) : Node × Option (List Symbol) := nodeAt (2 * s.length + 2) s

mutual

/-- Goes over a value without reading it. -/
def Node.pass : Node → Except SyntaxFault Unit
  | .null | .bool _ | .number _ | .str _ => .ok ()
  | .list items => items.pass
  | .object members => members.pass
  | .absent => .error .endInValue
  | .brokenStr _ passed | .broken _ passed => .error passed

def Items.pass : Items → Except SyntaxFault Unit
  | .done => .ok ()
  | .stuck why => .error why.inPassedList
  | .item value rest =>
    match value.pass with
    | .ok () => rest.pass
    | .error fault => .error fault

def Members.pass : Members → Except SyntaxFault Unit
  | .done => .ok ()
  | .stuck why => .error why.inPassedObject
  | .stray _ => .error .keyNotString
  | .brokenKey _ passed => .error passed
  | .member _ value rest =>
    match value.pass with
    | .ok () => rest.pass
    | .error fault => .error fault

end

end ParishSite.Json
