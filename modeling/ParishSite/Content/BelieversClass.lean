import ParishSite.Content.Faults
import ParishSite.Json.Decoder
import ParishSite.Json.Encode
import ParishSite.Number.Digits

/-! The class for new believers: rows of the table, the entry that visitors see, and the form. A start
that is typed as a date is kept with the day first; any other start is kept as it is typed. -/

namespace ParishSite

namespace StartsLabel

private def number? (ds : List Char) : Option Nat :=
  if ds.all fun c => '0' ≤ c && c ≤ '9' then
    some (ds.foldl (fun n c => n * 10 + (c.toNat - 48)) 0)
  else none

theorem number?_eq (ds : List Char) :
    number? ds = if ds.all Char.isDigit then some (Nat.ofDigitChars 10 ds 0) else none := by
  simp only [number?, Number.between_isDigit, Number.foldl_value]

/-- The date in a text of four, two and two digits with hyphens between, if the calendar has it. -/
def date? : List Char → Option Time.Date
  | [y₁, y₂, y₃, y₄, '-', m₁, m₂, '-', d₁, d₂] => do
    let date : Time.Date := ⟨← number? [y₁, y₂, y₃, y₄], ← number? [m₁, m₂], ← number? [d₁, d₂]⟩
    if date.IsValid then some date else none
  | _ => none

def dayFirst (d : Time.Date) : List Char :=
  Time.Rfc3339.padded 2 d.day ++ '/' :: Time.Rfc3339.padded 2 d.month ++
    '/' :: Time.Rfc3339.yearText d.year

def normalized (label : String) : String :=
  let typed := Text.trim label.toList
  String.ofList ((date? typed).elim typed dayFirst)

end StartsLabel

structure BelieversClassRow where
  id : String
  classKey : String
  startsLabel : Option String
  durationLabel : Option String
  isActive : Bool
deriving DecidableEq

namespace BelieversClassRow

def toJson (c : BelieversClassRow) : Json :=
  .obj [("id", .str c.id), ("class_key", .str c.classKey),
    ("starts_label", Json.text? c.startsLabel), ("duration_label", Json.text? c.durationLabel),
    ("is_active", .bool c.isActive)]

def decoder : Json.Decoder BelieversClassRow :=
  (Json.Record.of BelieversClassRow.mk
    |>.required "id" .rowId
    |>.required "class_key" .string
    |>.optional "starts_label" .string
    |>.optional "duration_label" .string
    |>.required "is_active" .bool).decoder "BelieversClassRecord"

end BelieversClassRow

structure BelieversClass where
  id : String
  startsLabel : String
  durationLabel : String
deriving DecidableEq

namespace BelieversClass

def ofRow (c : BelieversClassRow) : BelieversClass :=
  ⟨c.id, c.startsLabel.getD "", c.durationLabel.getD ""⟩

def toJson (c : BelieversClass) : Json :=
  .obj [("id", .str c.id), ("starts_label", .str c.startsLabel),
    ("duration_label", .str c.durationLabel)]

def decoder : Json.Decoder BelieversClass :=
  (Json.Record.of BelieversClass.mk
    |>.required "id" .string
    |>.required "starts_label" .string
    |>.required "duration_label" .string).decoder "BelieversClass"

end BelieversClass

structure BelieversClassForm where
  startsLabel : String
  durationLabel : String
  isActive : Bool
deriving DecidableEq

namespace BelieversClassForm

def decoder : Json.Decoder BelieversClassForm :=
  (Json.Record.of BelieversClassForm.mk
    |>.required "starts_label" .string
    |>.required "duration_label" .string
    |>.defaulted "is_active" .bool true).decoder "BelieversClassInput"

def toJson (f : BelieversClassForm) : Json :=
  .obj [("starts_label", .str f.startsLabel), ("duration_label", .str f.durationLabel),
    ("is_active", .bool f.isActive)]

def faults (f : BelieversClassForm) : List FieldFault :=
  FieldFault.whenShort f.startsLabel 3 "starts_label" "Start date is required." ++
    FieldFault.whenShort f.durationLabel 2 "duration_label" "Duration is required."

def columns (f : BelieversClassForm) : List (String × Json) :=
  [("starts_label", .str (StartsLabel.normalized f.startsLabel)),
    ("duration_label", .str (Text.trimmed f.durationLabel)), ("is_active", .bool f.isActive)]

/-- The columns of a new class that nobody types in. -/
def newColumns (key : String) : List (String × Json) :=
  [("class_key", .str key), ("title", .str "Believers Class"), ("register_url", .str "/connect")] ++
    ["summary", "time_label", "location", "learn_point_1", "learn_point_2", "learn_point_3"].map
      fun column => (column, .str "")

end BelieversClassForm
end ParishSite
