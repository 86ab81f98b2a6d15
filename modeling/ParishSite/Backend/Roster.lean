import ParishSite.Backend.Tables
import ParishSite.Content.Team

/-! The table of serving teams, which may lack the column of leaders. Whether it has the column is
remembered: it is taken to have it until a request that names it is refused for that, and again once
a read of it succeeds. A request that was refused so is made once more without the column. -/

namespace ParishSite.Backend

/-- An exchange that may change what is known about the column. -/
abbrev RosterCall := ExceptT Fault (StateT Bool Dialogue)

namespace Roster

def outcome (call : Call α) : RosterCall (Except Fault α) :=
  ExceptT.lift (StateT.lift call.run)

def run (call : Call α) : RosterCall α := ExceptT.mk (StateT.lift call.run)

def columns (withLeader : Bool) : String :=
  if withLeader then
    "id,team_key,group_name,group_sort,team_sort,name,leader,description,is_active"
  else "id,team_key,group_name,group_sort,team_sort,name,description,is_active"

def query (withLeader : Bool) : Query :=
  ((((Table.teams.query.select (columns withLeader)).eq "is_active" "true").order
    "group_sort" true).order "team_sort" true).order "name" true

def publicTeams (c : Client) : Call (List ServingTeamGroup) := do
  return groupTeams (← c.select (query false) TeamRow.decoder none)

/-- The active teams for admins. The column of leaders is always asked for first. -/
def list (c : Client) (token : String) : RosterCall TeamList := do
  let rows ← match ← outcome (c.select (query true) TeamRow.decoder (some token)) with
    | .ok rows => do
      set true
      pure rows
    | .error fault =>
      if fault.isMissingColumn "leader" then do
        set false
        run (c.select (query false) TeamRow.decoder (some token))
      else throw fault
  let teams := rows.map TeamItem.ofRow
  return ⟨teams, groupOptions teams, ← get⟩

/-- Writes with the column of leaders if the table has it, and once more without it if the write is
refused because it has not. -/
def write (attempt : Bool → Call α) : RosterCall α := do
  let withLeader ← get
  match ← outcome (attempt withLeader) with
  | .ok a => return a
  | .error fault =>
    if withLeader && fault.isMissingColumn "leader" then do
      set false
      run (attempt false)
    else throw fault

def sortDecoder : Json.Decoder (Option Int) :=
  (Json.Record.of (fun sort : Option Int => sort)
    |>.optional "team_sort" .int32).decoder "TeamSortRow"

/-- Adds a team behind the teams of its group. -/
def create (c : Client) (f : TeamForm) (token : String) : RosterCall TeamItem := do
  let q := (Table.teams.query.select "team_sort").eq "group_name" (Text.trimmed f.groupName)
  let sorts ← run (c.select q sortDecoder (some token))
  let suffix ← ExceptT.lift (StateT.lift Dialogue.keySuffix)
  let key := keyFor f.name "team" suffix
  let row (withLeader : Bool) : List (String × Json) :=
    f.columns withLeader ++ [("team_key", .str key), ("team_sort", .int (nextTeamSort sorts))]
  return TeamItem.ofRow
    (← write fun withLeader => c.insert Table.teams.name (row withLeader) TeamRow.decoder token)

def update (c : Client) (id : String) (f : TeamForm) (token : String) :
    RosterCall (Option TeamItem) := do
  let row ← write fun withLeader =>
    c.update Table.teams.name id (f.columns withLeader) TeamRow.decoder token
  return row.map TeamItem.ofRow

end Roster
end ParishSite.Backend
