import ParishSite.Json.Basic
import ParishSite.Number.Layout

/-! JSON text, without white space. Quotes, backslashes and control characters are escaped; every
other character stands for itself. -/

namespace ParishSite.Json

open Number (Layout)

/-- A control character below the space, as four hexadecimal digits. -/
private def controlDigits (c : Char) : List Char :=
  ['0', '0', Nat.digitChar (c.toNat / 16), Nat.digitChar (c.toNat % 16)]

def escapeChar (c : Char) : List Char :=
  if c = '"' then ['\\', '"']
  else if c = '\\' then ['\\', '\\']
  else if c = '\n' then ['\\', 'n']
  else if c = '\r' then ['\\', 'r']
  else if c = '\t' then ['\\', 't']
  else if c.toNat = 8 then ['\\', 'b']
  else if c.toNat = 12 then ['\\', 'f']
  else if c.toNat < 32 then '\\' :: 'u' :: controlDigits c
  else [c]

def renderText (s : String) : List Char :=
  '"' :: s.toList.flatMap escapeChar ++ ['"']

mutual

def render : Json → List Char
  | .null => "null".toList
  | .bool true => "true".toList
  | .bool false => "false".toList
  | .int n => (toString n).toList
  | .float x => (Layout.data.render x).toList
  | .str s => renderText s
  | .arr [] => ['[', ']']
  | .arr (item :: rest) => '[' :: render item ++ renderItems rest
  | .obj [] => ['\x7b', '\x7d']
  | .obj ((key, value) :: rest) =>
    '\x7b' :: renderText key ++ ':' :: render value ++ renderMembers rest

def renderItems : List Json → List Char
  | [] => [']']
  | item :: rest => ',' :: render item ++ renderItems rest

def renderMembers : List (String × Json) → List Char
  | [] => ['\x7d']
  | (key, value) :: rest => ',' :: renderText key ++ ':' :: render value ++ renderMembers rest

end

def toText (j : Json) : String := String.ofList j.render

end ParishSite.Json
