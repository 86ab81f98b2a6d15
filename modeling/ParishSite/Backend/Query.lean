import ParishSite.Json.Basic

/-! Reads of a table: which columns, which rows, in which order and how many. The calls that build a
query may come in any order; what is sent depends only on what was asked. -/

namespace ParishSite.Backend

structure Query where
  table : String
  columns : String
  /-- The columns and the conditions that rows must meet. -/
  filters : List (String × String)
  orders : List String
  count : Option Nat
deriving DecidableEq

namespace Query

/-- All columns of all rows. -/
def new (table : String) : Query := ⟨table, "*", [], [], none⟩

def select (q : Query) (columns : String) : Query := { q with columns }

def eq (q : Query) (column value : String) : Query :=
  { q with filters := q.filters ++ [(column, "eq." ++ value)] }

def order (q : Query) (column : String) (ascending : Bool) : Query :=
  { q with orders := q.orders ++ [column ++ (if ascending then ".asc" else ".desc")] }

def limit (q : Query) (count : Nat) : Query := { q with count := some count }

def params (q : Query) : List (String × String) :=
  ("select", q.columns) :: q.filters ++
    (if q.orders.isEmpty then [] else [("order", ",".intercalate q.orders)]) ++
    match q.count with
    | some n => [("limit", toString n)]
    | none => []

end Query
end ParishSite.Backend
