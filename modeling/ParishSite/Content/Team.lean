import ParishSite.Content.Faults
import ParishSite.Json.Decoder
import ParishSite.Json.Encode

/-! Serving teams: rows of the table, the views of visitors and of admins, and the form. Teams stand in
groups, and some groups have a fixed place in the order of groups. -/

namespace ParishSite

def knownGroups : List (String × Int) :=
  [("Frontline Teams", 10), ("Creative & Technical", 20), ("Next Generation", 30), ("Support", 40)]

/-- The place of a group among the groups; unknown groups come last. -/
def groupSort (name : String) : Int :=
  match knownGroups.find? fun (known, _) => known = name with
  | some (_, sort) => sort
  | none => 90

/-- Integers of 32 bits with a sign, as the places of groups and teams are. They are checked where a
place is read. -/
def IsInt32 (n : Int) : Prop := -2147483648 ≤ n ∧ n ≤ 2147483647

structure TeamRow where
  id : String
  teamKey : String
  groupName : String
  groupSort : Option Int
  teamSort : Option Int
  name : String
  leader : Option String
  description : Option String
  isActive : Bool
deriving DecidableEq

namespace TeamRow

def HasInt32 (t : TeamRow) : Prop :=
  (∀ n, t.groupSort = some n → IsInt32 n) ∧ ∀ n, t.teamSort = some n → IsInt32 n

def toJson (t : TeamRow) : Json :=
  .obj [("id", .str t.id), ("team_key", .str t.teamKey), ("group_name", .str t.groupName),
    ("group_sort", Json.int? t.groupSort), ("team_sort", Json.int? t.teamSort),
    ("name", .str t.name), ("leader", Json.text? t.leader),
    ("description", Json.text? t.description), ("is_active", .bool t.isActive)]

def decoder : Json.Decoder TeamRow :=
  (Json.Record.of TeamRow.mk
    |>.required "id" .rowId
    |>.required "team_key" .string
    |>.required "group_name" .string
    |>.optional "group_sort" .int32
    |>.optional "team_sort" .int32
    |>.required "name" .string
    |>.defaulted "leader" (.optional .string) none
    |>.optional "description" .string
    |>.required "is_active" .bool).decoder "TeamRecord"

end TeamRow

structure TeamItem where
  id : String
  teamKey : String
  groupName : String
  groupSort : Int
  teamSort : Int
  name : String
  leader : String
  description : String
deriving DecidableEq

def defaultTeamSort : Int := 100

namespace TeamItem

def HasInt32 (t : TeamItem) : Prop := IsInt32 t.groupSort ∧ IsInt32 t.teamSort

def ofRow (t : TeamRow) : TeamItem where
  id := t.id
  teamKey := t.teamKey
  groupName := t.groupName
  groupSort := t.groupSort.getD (ParishSite.groupSort t.groupName)
  teamSort := t.teamSort.getD defaultTeamSort
  name := t.name
  leader := t.leader.getD ""
  description := t.description.getD ""

def toJson (t : TeamItem) : Json :=
  .obj [("id", .str t.id), ("team_key", .str t.teamKey), ("group_name", .str t.groupName),
    ("group_sort", .int t.groupSort), ("team_sort", .int t.teamSort), ("name", .str t.name),
    ("leader", .str t.leader), ("description", .str t.description)]

def decoder : Json.Decoder TeamItem :=
  (Json.Record.of TeamItem.mk
    |>.required "id" .string
    |>.required "team_key" .string
    |>.required "group_name" .string
    |>.required "group_sort" .int32
    |>.required "team_sort" .int32
    |>.required "name" .string
    |>.required "leader" .string
    |>.required "description" .string).decoder "TeamItem"

end TeamItem

/-- The next place after all the places that are taken. These have 32 bits where they are read; what
becomes of a sum that has more, which takes a place above 2147483637, is left open. -/
def nextTeamSort (taken : List (Option Int)) : Int :=
  taken.foldl (fun highest sort => max highest (sort.getD defaultTeamSort)) 0 + 10

def addName (names : List String) (name : String) : List String :=
  if names.contains name then names else names ++ [name]

/-- The known groups and all others that occur, in the order of groups. -/
def groupOptions (teams : List TeamItem) : List String :=
  let names := teams.foldl (fun names t => addName names t.groupName) (knownGroups.map (·.1))
  names.mergeSort fun a b => groupSort a ≤ groupSort b

structure TeamList where
  teams : List TeamItem
  groupOptions : List String
  hasLeaderColumn : Bool
deriving DecidableEq

namespace TeamList

def toJson (l : TeamList) : Json :=
  .obj [("teams", .arr (l.teams.map TeamItem.toJson)),
    ("group_options", Json.strs l.groupOptions),
    ("has_leader_column", .bool l.hasLeaderColumn)]

def decoder : Json.Decoder TeamList :=
  (Json.Record.of TeamList.mk
    |>.required "teams" (.list TeamItem.decoder)
    |>.required "group_options" (.list .string)
    |>.required "has_leader_column" .bool).decoder "TeamList"

end TeamList

structure ServingTeam where
  key : String
  name : String
  description : String
deriving DecidableEq

namespace ServingTeam

def ofRow (t : TeamRow) : ServingTeam := ⟨t.teamKey, t.name, t.description.getD ""⟩

def toJson (t : ServingTeam) : Json :=
  .obj [("id", .str t.key), ("name", .str t.name), ("description", .str t.description)]

def decoder : Json.Decoder ServingTeam :=
  (Json.Record.of ServingTeam.mk
    |>.required "id" .string
    |>.required "name" .string
    |>.required "description" .string).decoder "ServingTeam"

end ServingTeam

structure ServingTeamGroup where
  title : String
  teams : List ServingTeam
deriving DecidableEq

namespace ServingTeamGroup

def toJson (g : ServingTeamGroup) : Json :=
  .obj [("title", .str g.title), ("teams", .arr (g.teams.map ServingTeam.toJson))]

def decoder : Json.Decoder ServingTeamGroup :=
  (Json.Record.of ServingTeamGroup.mk
    |>.required "title" .string
    |>.required "teams" (.list ServingTeam.decoder)).decoder "ServingTeamGroup"

end ServingTeamGroup

/-- Puts a team at the end of its group, or of a new group at the end. -/
def addTeam (title : String) (team : ServingTeam) : List ServingTeamGroup → List ServingTeamGroup
  | [] => [⟨title, [team]⟩]
  | g :: rest =>
    if g.title = title then { g with teams := g.teams ++ [team] } :: rest
    else g :: addTeam title team rest

/-- The teams by group, in the order in which the groups first occur. -/
def groupTeams (rows : List TeamRow) : List ServingTeamGroup :=
  rows.foldl (fun groups t => addTeam t.groupName (ServingTeam.ofRow t) groups) []

structure TeamForm where
  groupName : String
  name : String
  leader : String
  description : String
deriving DecidableEq

namespace TeamForm

def decoder : Json.Decoder TeamForm :=
  (Json.Record.of TeamForm.mk
    |>.required "group_name" .string
    |>.required "name" .string
    |>.defaulted "leader" .string ""
    |>.defaulted "description" .string "").decoder "TeamInput"

def toJson (f : TeamForm) : Json :=
  .obj [("group_name", .str f.groupName), ("name", .str f.name), ("leader", .str f.leader),
    ("description", .str f.description)]

/-- A leader is asked for only where the table has a column for it. -/
def faults (f : TeamForm) (hasLeaderColumn : Bool) : List FieldFault :=
  FieldFault.whenShort f.groupName 2 "group_name" "Group is required." ++
    FieldFault.whenShort f.name 3 "name" "Name must be at least 3 characters." ++
    (if hasLeaderColumn then FieldFault.whenShort f.leader 2 "leader" "Leader name is required."
      else []) ++
    FieldFault.whenShort f.description 10 "description"
      "Description must be at least 10 characters."

/-- The columns that are written for the form, with or without the leader. -/
def columns (f : TeamForm) (withLeader : Bool) : List (String × Json) :=
  let group := Text.trimmed f.groupName
  [("group_name", .str group), ("group_sort", .int (groupSort group)),
    ("name", .str (Text.trimmed f.name)), ("description", Json.text? (filledIn? f.description)),
    ("is_active", .bool true)] ++
    if withLeader then [("leader", Json.text? (filledIn? f.leader))] else []

end TeamForm
end ParishSite
