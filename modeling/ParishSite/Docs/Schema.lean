import ParishSite.Content.Announcement
import ParishSite.Content.Event

/-! The shapes of what the service takes and gives, as the API document describes them. -/

namespace ParishSite.Docs

abbrev Members := List (String × Json)

namespace Schema

def text : Members := [("type", .str "string")]

def optionalText : Members := [("type", Json.strs ["string", "null"])]

def bool : Members := [("type", .str "boolean")]

def int32 : Members := [("type", .str "integer"), ("format", .str "int32")]

def nat32 : Members := int32 ++ [("minimum", .int 0)]

def optionalInt64 : Members :=
  [("type", Json.strs ["integer", "null"]), ("format", .str "int64")]

def object : Members := [("type", .str "object")]

def instant (example_ : String) : Members :=
  text ++ [("format", .str "date-time"), ("example", .str example_)]

def optionalInstant : Members := optionalText ++ [("format", .str "date-time")]

def ref (name : String) : Members := [("$ref", .str ("#/components/schemas/" ++ name))]

def optionalRef (name : String) : Members :=
  [("oneOf", .arr [.obj [("type", .str "null")], .obj (ref name)])]

def list (item : Members) : Members := [("type", .str "array"), ("items", .obj item)]

def oneOf (words : List String) : Members := [("type", .str "string"), ("enum", Json.strs words)]

def described (s : Members) (description : String) : Members :=
  s ++ [("description", .str description)]

structure Field where
  name : String
  shape : Members
  isNeeded : Bool

def needed (name : String) (shape : Members) : Field := ⟨name, shape, true⟩

def free (name : String) (shape : Members) : Field := ⟨name, shape, false⟩

def record (fields : List Field) : Members :=
  object ++ [("properties", .obj (fields.map fun f => (f.name, .obj f.shape)))] ++
    match (fields.filter (·.isNeeded)).map (·.name) with
    | [] => []
    | names => [("required", Json.strs names)]

end Schema

open Schema

private def videoShapes : List (String × Members) :=
  [("Video", record [needed "id" text, needed "title" text, needed "description" text,
      needed "published_at"
        (described text "Publication timestamp as reported by YouTube, empty when unknown."),
      needed "thumbnail_url" text, needed "embed_url" text, needed "video_url" text,
      free "duration" (described optionalText "ISO-8601 duration, e.g. `PT1H2M3S`."),
      free "view_count" optionalText]),
    ("VideoPage", record [needed "videos" (list (ref "Video")),
      free "next_page_token" optionalText])]

private def eventShapes : List (String × Members) :=
  [("Event", record [needed "id" text, needed "title" text, free "description" optionalText,
      needed "category" (ref "EventCategory"), free "location" optionalText,
      needed "start" (instant "2025-11-23T10:30:00Z"),
      needed "end" (instant "2025-11-23T12:00:00Z"), free "image_url" optionalText]),
    ("EventCategory", oneOf (EventCategory.all.map EventCategory.name)),
    ("EventDetail", [("allOf", .arr [.obj (ref "Event"),
      .obj (record [needed "google_calendar_url" text, needed "ics_url" text])])]),
    ("EventInput", record [needed "title" text, free "description" text,
      needed "category" (ref "EventCategory"), free "location" text,
      free "start" optionalInstant, free "end" optionalInstant, free "image_url" text])]

private def teamShapes : List (String × Members) :=
  [("TeamItem", described (record [needed "id" text, needed "team_key" text,
      needed "group_name" text, needed "group_sort" int32, needed "team_sort" int32,
      needed "name" text, needed "leader" text, needed "description" text])
      "Admin view of a serving team with sort keys resolved."),
    ("TeamList", record [needed "teams" (list (ref "TeamItem")),
      needed "group_options" (list text), needed "has_leader_column" bool]),
    ("TeamInput", record [needed "group_name" text, needed "name" text, free "leader" text,
      free "description" text]),
    ("ServingTeam", record [needed "id" text, needed "name" text, needed "description" text]),
    ("ServingTeamGroup", record [needed "title" text,
      needed "teams" (list (ref "ServingTeam"))])]

private def noticeShapes : List (String × Members) :=
  [("Group", record [needed "id" text, needed "name" text, needed "meeting_time" text,
      needed "description" text]),
    ("GroupInput", record [needed "name" text, needed "meeting_time" text,
      free "description" text]),
    ("Announcement", record [needed "id" text, needed "title" text, needed "content" text,
      needed "status" (ref "AnnouncementStatus")]),
    ("AnnouncementInput", record [needed "title" text, needed "content" text,
      needed "status" (ref "AnnouncementStatus")]),
    ("AnnouncementStatus", oneOf [AnnouncementStatus.draft.name, AnnouncementStatus.published.name]),
    ("BelieversClass", described (record [needed "id" text, needed "starts_label" text,
      needed "duration_label" text]) "The schedule entry shown on the Serve page."),
    ("BelieversClassRecord", described (record [needed "id" text, needed "class_key" text,
      free "starts_label" optionalText, free "duration_label" optionalText,
      needed "is_active" bool]) "Row of the `believers_classes` table."),
    ("BelieversClassInput", record [needed "starts_label" text, needed "duration_label" text,
      free "is_active" bool])]

private def accountShapes : List (String × Members) :=
  [("AuthUser", record [needed "id" text, free "email" optionalText,
      free "user_metadata" object]),
    ("AuthSession", record [needed "access_token" text, free "token_type" optionalText,
      free "expires_in" optionalInt64, free "refresh_token" optionalText,
      needed "user" (ref "AuthUser")]),
    ("AuthStatus", oneOf ["authorized", "must_change_password", "unauthorized"]),
    ("LoginRequest", record [needed "email" text, needed "password" text,
      free "from" (described optionalText "Admin page the user was sent away from.")]),
    ("LoginResponse", record [needed "session" (ref "AuthSession"),
      needed "must_change_password" bool, needed "redirect_to" text]),
    ("SessionResponse", record [needed "state" (ref "AuthStatus"),
      free "user" (optionalRef "AuthUser")]),
    ("PasswordChangeRequest", record [needed "new_password" text,
      needed "confirm_password" text, free "from" optionalText]),
    ("PasswordChangeResponse", record [needed "user" (ref "AuthUser"),
      needed "redirect_to" text]),
    ("RecoverRequest", record [needed "email" text]),
    ("DashboardSection", record [needed "title" text, needed "description" text,
      needed "path" text])]

def shapes : List (String × Members) :=
  videoShapes ++ eventShapes ++ teamShapes ++ noticeShapes ++ accountShapes

end ParishSite.Docs
