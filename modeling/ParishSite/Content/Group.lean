import ParishSite.Content.Faults
import ParishSite.Json.Decoder

/-! Small groups that meet in the week, and the form in which they are edited. -/

namespace ParishSite

structure Group where
  id : String
  name : String
  meetingTime : String
  description : String
deriving DecidableEq

namespace Group

def toJson (g : Group) : Json :=
  .obj [("id", .str g.id), ("name", .str g.name), ("meeting_time", .str g.meetingTime),
    ("description", .str g.description)]

def decoder : Json.Decoder Group :=
  (Json.Record.of Group.mk
    |>.required "id" .rowId
    |>.required "name" .string
    |>.required "meeting_time" .string
    |>.required "description" .string).decoder "Group"

end Group

structure GroupForm where
  name : String
  meetingTime : String
  description : String
deriving DecidableEq

namespace GroupForm

def decoder : Json.Decoder GroupForm :=
  (Json.Record.of GroupForm.mk
    |>.required "name" .string
    |>.required "meeting_time" .string
    |>.defaulted "description" .string "").decoder "GroupInput"

def toJson (f : GroupForm) : Json :=
  .obj [("name", .str f.name), ("meeting_time", .str f.meetingTime),
    ("description", .str f.description)]

def faults (f : GroupForm) : List FieldFault :=
  FieldFault.whenShort f.name 3 "name" "Name must be at least 3 characters." ++
    FieldFault.whenShort f.meetingTime 3 "meeting_time" "Meeting time is required." ++
    FieldFault.whenShort f.description 10 "description"
      "Description must be at least 10 characters."

def columns (f : GroupForm) : List (String × Json) :=
  [("name", .str (Text.trimmed f.name)), ("meeting_time", .str (Text.trimmed f.meetingTime)),
    ("description", .str (Text.trimmed f.description))]

end GroupForm
end ParishSite
