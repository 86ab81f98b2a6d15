import ParishSite.Service.Gate

/-! What admins ask for: signing in and out, the password, and the rows of every table. Everything but
signing in and the mail about a forgotten password goes through the gate, and rows are written with
the token of the admin. -/

namespace ParishSite.Service

open Backend (Table)
open Web (Request Response)

structure Login where
  email : String
  password : String
  /-- The page that the admin was sent away from. -/
  from? : Option String

def Login.decoder : Json.Decoder Login :=
  (Json.Record.of Login.mk
    |>.required "email" .string
    |>.required "password" .string
    |>.optional "from" .string).decoder "LoginRequest"

structure NewPassword where
  password : String
  confirmed : String
  from? : Option String

def NewPassword.decoder : Json.Decoder NewPassword :=
  (Json.Record.of NewPassword.mk
    |>.required "new_password" .string
    |>.required "confirm_password" .string
    |>.optional "from" .string).decoder "PasswordChangeRequest"

def recoverDecoder : Json.Decoder String :=
  (Json.Record.of (fun email : String => email)
    |>.required "email" .string).decoder "RecoverRequest"

def login (site : Site) (r : Request) : Act Response := do
  let asked ← Act.reading (r.readBody Login.decoder)
  match ← Act.outcome (site.store.signIn (Text.trimmed asked.email) asked.password) with
  | .ok session =>
    return .json 200 (.obj [("session", session.toJson),
      ("must_change_password", .bool (ParishSite.mustChangePassword session.user.metadata)),
      ("redirect_to", .str (pathAfterSignIn asked.from?))])
  | .error fault =>
    match fault with
    | .refused status _ message =>
      if status < 500 then Act.fail (.unauthorized message) else Act.fail fault.toFailure
    | _ => Act.fail fault.toFailure

def logout (site : Site) (r : Request) : Act Response := do
  match ← Act.reading r.bearer with
  | none => Act.fail invalidSession
  | some token =>
    Act.store (site.store.signOut token)
    return .bare 204

def session (site : Site) (r : Request) : Act Response := do
  let token ← Act.reading r.bearer
  let found ← ExceptT.lift (StateT.lift (SignIn.resolve site.store token))
  return .json 200 found.toJson

def changePassword (site : Site) (r : Request) : Act Response := do
  let token ← Act.reading r.bearer
  let asked ← Act.reading (r.readBody NewPassword.decoder)
  let admin ← gate site.store token true
  if let some fault := passwordFault? asked.password asked.confirmed then
    Act.fail (.badRequest fault.message)
  let metadata := passwordChanged admin.user.metadata (← Act.now)
  match ← Act.outcome (site.store.changePassword admin.token asked.password metadata) with
  | .ok user =>
    return .json 200 (.obj [("user", user.toJson),
      ("redirect_to", .str (pathAfterSignIn asked.from?))])
  | .error fault =>
    match fault with
    -- weak and repeated passwords are refused with these
    | .refused 400 _ message | .refused 422 _ message => Act.fail (.badRequest message)
    | _ => Act.fail fault.toFailure

def recoverPassword (site : Site) (r : Request) : Act Response := do
  let email := Text.trimmed (← Act.reading (r.readBody recoverDecoder))
  if email = "" then Act.fail (.badRequest "Email is required.")
  else
    Act.store (site.store.recoverPassword email site.settings.resetRedirect)
    return .bare 202

private def area (title description path : String) : Json :=
  .obj [("title", .str title), ("description", .str description), ("path", .str path)]

def dashboardAreas : Json :=
  .arr [area "Events" "Add and update upcoming events." "/admin/events",
    area "Teams" "Manage serving teams and details." "/admin/teams",
    area "Believers Class" "Edit the class content shown on the Serve page."
      "/admin/believers-classes",
    area "Groups" "Publish and edit small groups." "/admin/groups",
    area "Announcements" "Post updates for the church." "/admin/announcements"]

def dashboard (site : Site) (r : Request) : Act Response := do
  let _ ← gate site.store (← Act.reading r.bearer) false
  return .json 200 dashboardAreas

def rowName : Table → String
  | .events => "Event"
  | .teams => "Team"
  | .groups => "Group"
  | .announcements => "Announcement"
  | .believersClasses => "Believers Class entry"

def notFound (t : Table) : Failure := .notFound (rowName t ++ " not found")

def list (site : Site) (t : Table) (r : Request) : Act Response := do
  let admin ← gate site.store (← Act.reading r.bearer) false
  let answer {α : Type} (toJson : α → Json) (rows : List α) : Response :=
    .json 200 (.arr (rows.map toJson))
  match t with
  | .events => return answer Event.toJson (← Act.store (site.store.events none (some admin.token)))
  | .teams => return .json 200 (← Act.roster (Backend.Roster.list site.store admin.token)).toJson
  | .groups => return answer Group.toJson (← Act.store (site.store.groups (some admin.token)))
  | .announcements =>
    return answer Announcement.toJson
      (← Act.store (site.store.announcements false (some admin.token)))
  | .believersClasses =>
    return answer BelieversClassRow.toJson (← Act.store (site.store.classes admin.token))

/-- Reads a form, lets the admin pass and writes the form if it has no fault. What is wrong with the
form may depend on what is remembered about the table. -/
def submit (site : Site) (r : Request) (token : Option String) (d : Json.Decoder α)
    (faults : Memory → α → List FieldFault) (write : α → String → Act β) : Act β := do
  let form ← Act.reading (r.readBody d)
  let admin ← gate site.store token false
  Act.checking (checked (faults (← get) form))
  write form admin.token

def create (site : Site) (t : Table) (r : Request) : Act Response := do
  let token ← Act.reading r.bearer
  let created {α : Type} (toJson : α → Json) (a : α) : Response := .json 201 (toJson a)
  match t with
  | .events =>
    return created Event.toJson (← submit site r token EventForm.decoder (fun _ f => f.faults)
      fun f token => Act.store (site.store.createEvent f token))
  | .teams =>
    return created TeamItem.toJson (← submit site r token TeamForm.decoder
      (fun m f => f.faults m.hasLeaderColumn)
      fun f token => Act.roster (Backend.Roster.create site.store f token))
  | .groups =>
    return created Group.toJson (← submit site r token GroupForm.decoder (fun _ f => f.faults)
      fun f token => Act.store (site.store.createGroup f token))
  | .announcements =>
    return created Announcement.toJson (← submit site r token AnnouncementForm.decoder
      (fun _ f => f.faults) fun f token => Act.store (site.store.createAnnouncement f token))
  | .believersClasses =>
    return created BelieversClassRow.toJson (← submit site r token BelieversClassForm.decoder
      (fun _ f => f.faults) fun f token => Act.store (site.store.createClass f token))

def update (site : Site) (t : Table) (id : List Char) (r : Request) : Act Response := do
  let token ← Act.reading r.bearer
  let id ← Act.reading (Request.pathText "id" id)
  let updated {α : Type} (toJson : α → Json) (row : Option α) : Act Response :=
    match row with
    | some a => return .json 200 (toJson a)
    | none => Act.fail (notFound t)
  match t with
  | .events =>
    updated Event.toJson (← submit site r token EventForm.decoder (fun _ f => f.faults)
      fun f token => Act.store (site.store.updateEvent id f token))
  | .teams =>
    updated TeamItem.toJson (← submit site r token TeamForm.decoder
      (fun m f => f.faults m.hasLeaderColumn)
      fun f token => Act.roster (Backend.Roster.update site.store id f token))
  | .groups =>
    updated Group.toJson (← submit site r token GroupForm.decoder (fun _ f => f.faults)
      fun f token => Act.store (site.store.updateGroup id f token))
  | .announcements =>
    updated Announcement.toJson (← submit site r token AnnouncementForm.decoder
      (fun _ f => f.faults) fun f token => Act.store (site.store.updateAnnouncement id f token))
  | .believersClasses =>
    updated BelieversClassRow.toJson (← submit site r token BelieversClassForm.decoder
      (fun _ f => f.faults) fun f token => Act.store (site.store.updateClass id f token))

def remove (site : Site) (t : Table) (id : List Char) (r : Request) : Act Response := do
  let token ← Act.reading r.bearer
  let id ← Act.reading (Request.pathText "id" id)
  let admin ← gate site.store token false
  if ← Act.store (site.store.remove t id admin.token) then return .bare 204
  else Act.fail (notFound t)

end ParishSite.Service
