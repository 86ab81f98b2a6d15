import ParishSite.Docs.Schema

/-! The API document: every operation of the service with what it takes and what it answers, and
looking up a part of a document by a pointer. -/

namespace ParishSite.Docs

open Schema

structure Parameter where
  name : String
  place : String
  description : String
  isNeeded : Bool
  shape : Members

/-- An answer; what it holds is under its media type, unless it holds nothing. -/
structure Answer where
  status : Nat
  description : String
  content : Option (String × Option Members)

structure Operation where
  path : String
  method : String
  name : String
  tag : String
  parameters : List Parameter
  body : Option String
  answers : List Answer
  needsToken : Bool

namespace Answer

def bare (status : Nat) (description : String) : Answer := ⟨status, description, none⟩

def json (status : Nat) (description : String) (shape : Members) : Answer :=
  ⟨status, description, some ("application/json", some shape)⟩

def calendar (description : String) : Answer :=
  ⟨200, description, some ("text/calendar", none)⟩

private def typed (type : String) (shape : Option Members) : Json :=
  .obj [(type, .obj (shape.elim [] fun s => [("schema", .obj s)]))]

def toMember (a : Answer) : String × Json :=
  (toString a.status, .obj (("description", .str a.description) ::
    a.content.elim [] fun (type, shape) => [("content", typed type shape)]))

end Answer

namespace Parameter

def inQuery (name : String) (shape : Members) (description : String) : Parameter :=
  ⟨name, "query", description, false, shape⟩

def id (description : String) : Parameter := ⟨"id", "path", description, true, text⟩

def toJson (p : Parameter) : Json :=
  .obj [("name", .str p.name), ("in", .str p.place), ("description", .str p.description),
    ("required", .bool p.isNeeded), ("schema", .obj p.shape)]

end Parameter

namespace Operation

def toJson (o : Operation) : Json :=
  .obj ([("tags", Json.strs [o.tag]), ("operationId", .str o.name)] ++
    (if o.parameters.isEmpty then []
      else [("parameters", .arr (o.parameters.map Parameter.toJson))]) ++
    (o.body.elim [] fun shape =>
      [("requestBody", .obj [
        ("content", .obj [("application/json", .obj [("schema", .obj (ref shape))])]),
        ("required", .bool true)])]) ++
    [("responses", .obj (o.answers.map Answer.toMember))] ++
    if o.needsToken then [("security", .arr [.obj [("bearer_auth", .arr [])]])] else [])

private def read (path name tag : String) (parameters : List Parameter)
    (answers : List Answer) : Operation :=
  ⟨path, "get", name, tag, parameters, none, answers, false⟩

private def forAdmins (path method name : String) (parameters : List Parameter)
    (body : Option String) (answers : List Answer) : Operation :=
  ⟨path, method, name, "admin", parameters, body, answers, true⟩

private def openToAll (o : Operation) : Operation := { o with needsToken := false }

end Operation

open Operation

private def pageParameters : List Parameter :=
  [.inQuery "page_token" text "Continuation token from a previous page",
    .inQuery "max_results" nat32 "Page size (1-50, default 21)",
    .inQuery "refresh" bool "Bypass the feed cache"]

private def categoryParameter : Parameter :=
  .inQuery "category" text "All, Worship, Community, Youth or Kids"

private def siteOperations : List Operation :=
  [read "/" "root" "site" [] [], read "/healthz/live" "healthz_live" "site" [] [],
    read "/healthz/ready" "healthz_ready" "site" [] []]

private def videoOperations : List Operation :=
  [read "/videos" "get_videos" "videos"
      (.inQuery "q" text "Search term; omit for the latest uploads" :: pageParameters)
      [.json 200 "One page of videos" (ref "VideoPage"), .bare 400 "Invalid page size",
        .bare 502 "YouTube request failed", .bare 503 "YouTube is not configured"],
    read "/videos/search" "search_videos" "videos"
      (⟨"q", "query", "Search term", true, text⟩ :: pageParameters)
      [.json 200 "One page of search results" (ref "VideoPage"),
        .bare 400 "Missing search term or invalid page size"],
    read "/videos/live" "get_live_video" "videos" []
      [.json 200 "The live stream, or null when the channel is offline" (ref "Video")]]

private def eventOperations : List Operation :=
  [read "/events" "list_events" "events" [categoryParameter]
      [.json 200 "Events ordered by start" (list (ref "Event")), .bare 400 "Unknown category"],
    read "/events.ics" "events_ical" "events" [categoryParameter]
      [.calendar "iCal file", .bare 404 "No events found"],
    read "/events/\x7bid\x7d" "get_event" "events" [.id "Event id"]
      [.json 200 "Event with calendar links" (ref "EventDetail"), .bare 404 "Event not found"],
    read "/events/\x7bid\x7d/ics" "event_ical" "events" [.id "Event id"]
      [.calendar "iCal file for one event", .bare 404 "Event not found"]]

private def contentOperations : List Operation :=
  [read "/teams" "list_teams" "content" []
      [.json 200 "Active serving teams by group" (list (ref "ServingTeamGroup"))],
    read "/groups" "list_groups" "content" [] [.json 200 "Small groups" (list (ref "Group"))],
    read "/announcements" "list_announcements" "content" []
      [.json 200 "Published announcements" (list (ref "Announcement"))],
    read "/believers-class" "get_believers_class" "content" []
      [.json 200 "Next Believers Class, or null when none is scheduled" (ref "BelieversClass")]]

private def accountOperations : List Operation :=
  [openToAll (forAdmins "/admin/login" "post" "login" [] (some "LoginRequest")
      [.json 200 "Signed in" (ref "LoginResponse"), .bare 401 "Invalid login credentials",
        .bare 503 "Supabase is not configured"]),
    forAdmins "/admin/logout" "post" "logout" [] none [.bare 204 "Signed out"],
    forAdmins "/admin/session" "get" "session" [] none
      [.json 200 "Current auth state" (ref "SessionResponse")],
    forAdmins "/admin/password" "post" "change_password" [] (some "PasswordChangeRequest")
      [.json 200 "Password updated" (ref "PasswordChangeResponse"),
        .bare 400 "Password too short or confirmation mismatch",
        .bare 401 "Invalid or expired session"],
    openToAll (forAdmins "/admin/password/recover" "post" "recover_password" []
      (some "RecoverRequest") [.bare 202 "Recovery email requested"]),
    forAdmins "/admin" "get" "dashboard" [] none
      [.json 200 "Admin areas" (list (ref "DashboardSection"))]]

private structure RowWords where
  path : String
  /-- The end of the names of operations on one row. -/
  one : String
  many : String
  title : String
  form : String
  row : String
  listed : Answer

private def rowOperations (w : RowWords) : List Operation :=
  let onePath := w.path ++ "/\x7bid\x7d"
  let parameters := [Parameter.id (w.title ++ " id")]
  let missing := Answer.bare 404 (w.title ++ " not found")
  let invalid := Answer.bare 422 "Validation failed"
  [forAdmins w.path "get" ("list_" ++ w.many) [] none [w.listed],
    forAdmins w.path "post" ("create_" ++ w.one) [] (some w.form)
      [.json 201 (w.title ++ " created") (ref w.row), invalid],
    forAdmins onePath "put" ("update_" ++ w.one) parameters (some w.form)
      [.json 200 (w.title ++ " updated") (ref w.row), missing, invalid],
    forAdmins onePath "delete" ("delete_" ++ w.one) parameters none
      [.bare 204 (w.title ++ " deleted"), missing]]

private def tableWords : List RowWords :=
  [⟨"/admin/events", "event", "events", "Event", "EventInput", "Event",
      .json 200 "All events" (list (ref "Event"))⟩,
    ⟨"/admin/teams", "team", "teams", "Team", "TeamInput", "TeamItem",
      .json 200 "Serving teams with group options" (ref "TeamList")⟩,
    ⟨"/admin/groups", "group", "groups", "Group", "GroupInput", "Group",
      .json 200 "All groups" (list (ref "Group"))⟩,
    ⟨"/admin/announcements", "announcement", "announcements", "Announcement",
      "AnnouncementInput", "Announcement",
      .json 200 "Drafts and published announcements" (list (ref "Announcement"))⟩,
    ⟨"/admin/believers-classes", "believers_class", "believers_classes", "Class entry",
      "BelieversClassInput", "BelieversClassRecord",
      .json 200 "All class entries, newest first" (list (ref "BelieversClassRecord"))⟩]

def operations : List Operation :=
  siteOperations ++ videoOperations ++ eventOperations ++ contentOperations ++
    accountOperations ++ tableWords.flatMap rowOperations

/-- Puts a member into the object under a key, which is made if it is not there. -/
private def addUnder (key : String) (member : String × Json) : Members → Members
  | [] => [(key, .obj [member])]
  | (k, v) :: rest =>
    if k = key then
      match v with
      | .obj ms => (k, .obj (ms ++ [member])) :: rest
      | other => (k, other) :: rest
    else (k, v) :: addUnder key member rest

def paths : Members :=
  operations.foldl (fun known o => addUnder o.path (o.method, o.toJson) known) []

private def tag (name description : String) : Json :=
  .obj [("name", .str name), ("description", .str description)]

def document : Json :=
  .obj [("openapi", .str "3.1.0"),
    ("info", .obj [("title", .str "teamchurch-site"),
      ("description", .str "Axum-based API behind the Team Church website: YouTube feed, content admin and calendar export"),
      ("license", .obj [("name", .str "MIT"), ("identifier", .str "MIT")]),
      ("version", .str "0.3.0")]),
    ("paths", .obj paths),
    ("components", .obj [("schemas", .obj (shapes.map fun (name, s) => (name, .obj s))),
      ("securitySchemes", .obj [("bearer_auth", .obj [("type", .str "http"),
        ("scheme", .str "bearer"), ("bearerFormat", .str "JWT")])])]),
    ("tags", .arr [tag "site" "Service information", tag "videos" "YouTube channel feed",
      tag "events" "Church events and calendar export",
      tag "content" "Teams, groups, announcements and Believers Class",
      tag "admin" "Content admin"])]

namespace Pointer

/-- The parts of a pointer, in which `~1` stands for a slash and `~0` for a tilde. -/
private def unescaped : List Char → List Char
  | '~' :: '1' :: rest => '/' :: unescaped rest
  | '~' :: '0' :: rest => '~' :: unescaped rest
  | c :: rest => c :: unescaped rest
  | [] => []

private def splitAtSlash : List Char → List (List Char)
  | [] => [[]]
  | c :: rest =>
    if c = '/' then [] :: splitAtSlash rest
    else
      match splitAtSlash rest with
      | part :: more => (c :: part) :: more
      | [] => [[c]]

/-- The place in an array, without a sign and without zeros before it. -/
private def index? (part : List Char) : Option Nat :=
  match part with
  | [] => none
  | ['0'] => some 0
  | '0' :: _ => none
  | ds =>
    if ds.all Char.isDigit then some (ds.foldl (fun n c => n * 10 + (c.toNat - 48)) 0) else none

private def step? (j : Json) (part : List Char) : Option Json :=
  match j with
  | .obj ms => Json.find? (String.ofList part) ms
  | .arr items => (index? part).bind fun i => items[i]?
  | _ => none

def find? (pointer : String) (j : Json) : Option Json :=
  match pointer.toList with
  | [] => some j
  | '/' :: rest => ((splitAtSlash rest).map unescaped).foldlM step? j
  | _ => none

end Pointer

def methodsByPath : Members :=
  paths.map fun (path, methods) =>
    match methods with
    | .obj ms => (path, Json.strs ((ms.map (·.1)).mergeSort fun a b => a ≤ b))
    | other => (path, other)

end ParishSite.Docs
