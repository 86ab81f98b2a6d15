import Mathlib.Data.List.Induction
import ParishSite.Backend.Query

/-! What a query sends is told by its clauses kind by kind. Of the columns and of the limit the last one
counts, conditions and sort columns add up, and it makes no difference how the kinds are interleaved. -/

namespace ParishSite.Backend.Query

inductive Clause
  | select (columns : String)
  | eq (column value : String)
  | order (column : String) (ascending : Bool)
  | limit (count : Nat)

namespace Clause

@[simp] def addTo (q : Query) : Clause → Query
  | select columns => q.select columns
  | eq column value => q.eq column value
  | order column ascending => q.order column ascending
  | limit count => q.limit count

@[simp] def columns? : Clause → Option String
  | select columns => some columns
  | eq .. | order .. | limit _ => none

/-- A column, and the value that rows must have in it. -/
@[simp] def condition? : Clause → Option (String × String)
  | eq column value => some (column, value)
  | select _ | order .. | limit _ => none

/-- A column by which rows are sorted, and whether its values ascend. -/
@[simp] def sort? : Clause → Option (String × Bool)
  | order column ascending => some (column, ascending)
  | select _ | eq .. | limit _ => none

@[simp] def count? : Clause → Option Nat
  | limit count => some count
  | select _ | eq .. | order .. => none

theorem filterMap_snoc (kind : Clause → Option α) (clauses : List Clause) (clause : Clause) :
    (clauses ++ [clause]).filterMap kind = clauses.filterMap kind ++ (kind clause).toList := by
  rw [List.filterMap_append]
  cases asked : kind clause with
  | none => rw [List.filterMap_cons_none asked]; rfl
  | some _ => rw [List.filterMap_cons_some asked]; rfl

def last? (kind : Clause → Option α) (clauses : List Clause) : Option α :=
  (clauses.filterMap kind).getLast?

theorem last?_snoc (kind : Clause → Option α) (clauses : List Clause) (clause : Clause) :
    last? kind (clauses ++ [clause]) = (kind clause).or (last? kind clauses) := by
  rw [last?, filterMap_snoc, List.getLast?_append]
  cases kind clause <;> rfl

/-- Clauses that ask for the same in every kind, however the kinds are interleaved. -/
structure Alike (clauses others : List Clause) : Prop where
  columns : last? columns? clauses = last? columns? others
  conditions : clauses.filterMap condition? = others.filterMap condition?
  sorts : clauses.filterMap sort? = others.filterMap sort?
  count : last? count? clauses = last? count? others

end Clause

open Clause (Alike addTo columns? condition? count? filterMap_snoc last? last?_snoc sort?)

def ofClauses (table : String) (clauses : List Clause) : Query := clauses.foldl addTo (new table)

theorem ofClauses_snoc (table : String) (clauses : List Clause) (clause : Clause) :
    ofClauses table (clauses ++ [clause]) = addTo (ofClauses table clauses) clause :=
  List.foldl_append

def conditionPair : String × String → String × String
  | (column, value) => (column, "eq." ++ value)

def sortText : String × Bool → String
  | (column, true) => column ++ ".asc"
  | (column, false) => column ++ ".desc"

/-- A clause changes what is kept of its own kind and nothing else. -/
theorem addTo_eq (q : Query) (clause : Clause) :
    addTo q clause =
      { table := q.table
        columns := (columns? clause).getD q.columns
        filters := q.filters ++ (condition? clause).toList.map conditionPair
        orders := q.orders ++ (sort? clause).toList.map sortText
        count := (count? clause).or q.count } := by
  cases clause with
  | select columns => simp [select]
  | eq column value => simp [eq, conditionPair]
  | order column ascending => cases ascending <;> simp [order, sortText]
  | limit count => simp [limit]

theorem ofClauses_eq (table : String) (clauses : List Clause) :
    ofClauses table clauses =
      { table
        columns := (last? columns? clauses).getD "*"
        filters := (clauses.filterMap condition?).map conditionPair
        orders := (clauses.filterMap sort?).map sortText
        count := last? count? clauses } := by
  -- The last clause is the one that was added to the query of all the others.
  induction clauses using List.reverseRecOn with
  | nil => rfl
  | append_singleton clauses clause ih =>
    rw [ofClauses_snoc, addTo_eq, ih, last?_snoc, last?_snoc, Option.getD_or]
    simp only [filterMap_snoc, List.map_append]

def sortPairs : List (String × Bool) → List (String × String)
  | [] => []
  | sorts => [("order", ",".intercalate (sorts.map sortText))]

/-- What is sent is told kind by kind, so that clauses of different kinds may change places. -/
theorem params_ofClauses (table : String) (clauses : List Clause) :
    (ofClauses table clauses).params =
        ("select", (last? columns? clauses).getD "*") ::
          ((clauses.filterMap condition?).map conditionPair ++
            sortPairs (clauses.filterMap sort?) ++
            ((last? count? clauses).map fun count => ("limit", toString count)).toList) ∧
      ∀ others, Alike clauses others →
        (ofClauses table others).params = (ofClauses table clauses).params := by
  refine ⟨?told, ?moved⟩
  case told =>
    rw [ofClauses_eq, params]
    cases clauses.filterMap sort? <;> cases last? count? clauses <;> simp [sortPairs]
  case moved =>
    intro others alike
    rw [ofClauses_eq, ofClauses_eq, alike.columns, alike.conditions, alike.sorts, alike.count]

private def activeTeams : List Clause :=
  [.select "team_key,name", .eq "is_active" "true", .order "group_sort" true, .order "name" true,
    .limit 5]

private def activeTeamsMixed : List Clause :=
  [.order "group_sort" true, .limit 1, .select "name", .order "name" true, .limit 5,
    .eq "is_active" "true", .select "team_key,name"]

/-- Choices that are made again later leave no trace in what is sent. -/
theorem active_teams_sent_alike :
    Alike activeTeams activeTeamsMixed ∧
      (ofClauses "serving_teams" activeTeamsMixed).params =
        [("select", "team_key,name"), ("is_active", "eq.true"), ("order", "group_sort.asc,name.asc"),
          ("limit", "5")] := by
  have alike : Alike activeTeams activeTeamsMixed := ⟨rfl, rfl, rfl, rfl⟩
  obtain ⟨told, moved⟩ := params_ofClauses "serving_teams" activeTeams
  refine ⟨alike, (moved _ alike).trans (told.trans ?_)⟩
  decide

end ParishSite.Backend.Query
