import ParishSite.Backend.Tables
import ParishSite.Web.Request

/-! What the service answers to: paths, and for each path the methods and what they do. A part of a
path that stands for an id matches any text but the empty one. -/

namespace ParishSite.Service

open Backend (Table)

inductive Endpoint
  | root
  | live
  | ready
  | videos
  | videoSearch
  | liveVideo
  | events
  | eventsFile
  | event
  | eventFile
  | teams
  | groups
  | announcements
  | believersClass
  | dashboard
  | login
  | logout
  | session
  | changePassword
  | recoverPassword
  | list (table : Table)
  | create (table : Table)
  | update (table : Table)
  | remove (table : Table)
deriving DecidableEq

inductive Segment
  | fixed (text : List Char)
  | id
deriving DecidableEq

/-- A path, and what its methods do, in the order in which they are named to who asks for another. -/
structure Route where
  segments : List Segment
  actions : List (String × Endpoint)
deriving DecidableEq

/-- The parts of a path after its first slash. -/
def pathParts (path : List Char) : Option (List (List Char)) :=
  match path with
  | '/' :: rest => some (Web.Host.splitOn (· = '/') rest)
  | _ => none

private def segment (part : List Char) : Segment :=
  if part = ":id".toList then .id else .fixed part

private def route (path : String) (actions : List (String × Endpoint)) : Route :=
  ⟨((pathParts path.toList).getD []).map segment, actions⟩

private def tablePath : Table → String
  | .events => "/admin/events"
  | .teams => "/admin/teams"
  | .groups => "/admin/groups"
  | .announcements => "/admin/announcements"
  | .believersClasses => "/admin/believers-classes"

private def tableRoutes (t : Table) : List Route :=
  [route (tablePath t) [("GET", .list t), ("POST", .create t)],
    route (tablePath t ++ "/:id") [("PUT", .update t), ("DELETE", .remove t)]]

def routes : List Route :=
  [route "/" [("GET", .root)],
    route "/healthz/live" [("GET", .live)],
    route "/healthz/ready" [("GET", .ready)],
    route "/videos" [("GET", .videos)],
    route "/videos/search" [("GET", .videoSearch)],
    route "/videos/live" [("GET", .liveVideo)],
    route "/events" [("GET", .events)],
    route "/events.ics" [("GET", .eventsFile)],
    route "/events/:id" [("GET", .event)],
    route "/events/:id/ics" [("GET", .eventFile)],
    route "/teams" [("GET", .teams)],
    route "/groups" [("GET", .groups)],
    route "/announcements" [("GET", .announcements)],
    route "/believers-class" [("GET", .believersClass)],
    route "/admin" [("GET", .dashboard)],
    route "/admin/login" [("POST", .login)],
    route "/admin/logout" [("POST", .logout)],
    route "/admin/session" [("GET", .session)],
    route "/admin/password" [("POST", .changePassword)],
    route "/admin/password/recover" [("POST", .recoverPassword)]] ++
  [Table.events, .teams, .groups, .announcements, .believersClasses].flatMap tableRoutes

namespace Route

/-- The part that stands for the id, if the path matches; it is empty where the route has none. -/
def matchParts : List Segment → List (List Char) → Option (List Char)
  | [], [] => some []
  | .fixed text :: more, part :: parts => if text = part then matchParts more parts else none
  | .id :: more, part :: parts =>
    if part.isEmpty then none
    else (matchParts more parts).map fun _ => part
  | _, _ => none

/-- The methods that can be asked for; reading without the body comes with reading. -/
def allowed (r : Route) : String :=
  ",".intercalate (r.actions.flatMap fun (method, _) =>
    if method = "GET" then ["GET", "HEAD"] else [method])

def action? (r : Route) (method : String) : Option Endpoint :=
  let wanted := if method = "HEAD" then "GET" else method
  (r.actions.find? fun (m, _) => m = wanted).map (·.2)

end Route

/-- The route of a path, and the part of the path that stands for the id. -/
def findRoute? (path : List Char) : Option (Route × List Char) := do
  let parts ← pathParts path
  routes.findSome? fun r => (Route.matchParts r.segments parts).map fun id => (r, id)

/-- Where the API document is read, if it is offered. The pages that show it, under `/docs`, belong to the
library that makes them and are left out. -/
def documentPath : List Char := "/openapi.json".toList

end ParishSite.Service
