import ParishSite.Json.Basic
import ParishSite.Text.Blank

/-! What is wrong with a form, field by field. A form with several faults is told all of them. -/

namespace ParishSite

structure FieldFault where
  field : String
  message : String
deriving DecidableEq

namespace FieldFault

def when (condition : Bool) (field message : String) : List FieldFault :=
  if condition then [⟨field, message⟩] else []

/-- A fault if a text has too few characters, white space at its ends not counted. -/
def whenShort (text : String) (least : Nat) (field message : String) : List FieldFault :=
  when (Text.trimmedLength text < least) field message

def toJson (faults : List FieldFault) : Json :=
  .obj (faults.map fun f => (f.field, .str f.message))

end FieldFault

/-- A text without white space at its ends, or nothing when only white space was typed. -/
def filledIn? (s : String) : Option String :=
  let t := Text.trimmed s
  if t = "" then none else some t

end ParishSite
