import ParishSite.Number.Binary64

/-! Values of the JSON data format. An integer that fits 64 bits, with or without a sign, is kept as
an integer; every other number is a binary floating-point number. -/

namespace ParishSite

open Number (Binary64)

inductive Json
  | null
  | bool (value : Bool)
  | int (value : Int)
  | float (value : Binary64)
  | str (text : String)
  | arr (items : List Json)
  | obj (members : List (String × Json))

namespace Json

def find? (key : String) : List (String × Json) → Option Json
  | [] => none
  | (k, v) :: rest => if k = key then some v else find? key rest

/-- Binds a key, in its old place if it has one and at the end otherwise. -/
def bind (key : String) (value : Json) : List (String × Json) → List (String × Json)
  | [] => [(key, value)]
  | (k, v) :: rest => if k = key then (k, value) :: rest else (k, v) :: bind key value rest

/-- The members with the last value of each key. -/
def unique (members : List (String × Json)) : List (String × Json) :=
  members.foldl (fun known (k, v) => bind k v known) []

def text? : Option String → Json
  | some s => .str s
  | none => .null

def strs (items : List String) : Json := .arr (items.map .str)

end Json
end ParishSite
