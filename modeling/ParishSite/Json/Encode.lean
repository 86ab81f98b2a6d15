import ParishSite.Json.Basic
import ParishSite.Number.Layout
import ParishSite.Time.Rfc3339

/-! Small values as JSON, and the text of a plain value where a query wants one. -/

namespace ParishSite.Json

open Number (Layout)

def instant (t : Time.Instant) : Json := .str (Time.Rfc3339.writeZ t)

def instant? : Option Time.Instant → Json
  | some t => instant t
  | none => .null

def int? : Option Int → Json
  | some n => .int n
  | none => .null

/-- A member that is left out when there is nothing to tell. -/
def given (key : String) : Option String → List (String × Json)
  | some s => [(key, .str s)]
  | none => []

/-- A text, a truth value or a number as plain text; other values have none. -/
def plainText? : Json → Option String
  | .str s => some s
  | .bool true => some "true"
  | .bool false => some "false"
  | .int n => some (toString n)
  | .float x => some (Layout.plain.render x)
  | .null | .arr _ | .obj _ => none

end ParishSite.Json
