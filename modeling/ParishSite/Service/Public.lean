import ParishSite.Content.Calendar
import ParishSite.Service.Basic

/-! What visitors ask for. Nobody has to be signed in, and everything is read with the key of the
site. -/

namespace ParishSite.Service

open Web (QueryField Request Response)

def root : Response :=
  .json 200 (.obj [("message", .str "Team Church Site API"),
    ("endpoints", .obj [
      ("/videos", .str "Latest channel uploads, or search results with ?q="),
      ("/videos/live", .str "The stream currently live, if any"),
      ("/events", .str "Upcoming events as JSON"),
      ("/events.ics", .str "Events as an iCal file"),
      ("/teams", .str "Serving teams grouped by area"),
      ("/groups", .str "Small groups"),
      ("/announcements", .str "Published announcements"),
      ("/believers-class", .str "Next Believers Class"),
      ("/admin", .str "Content admin (requires sign-in)")])])

def live : Response := .json 200 (.obj [("status", .str "ok")])

/-- Whether the service has what it needs to reach the other services. -/
def ready (site : Site) : Response :=
  .json 200 (.obj [("status", .str "ok"),
    ("youtube_configured",
      .bool (site.settings.channelKey.isSome && site.settings.channelId.isSome)),
    ("supabase_configured", .bool site.store.isSome)])

structure FeedQuery where
  term : Option String
  pageToken : Option String
  maxResults : Nat
  refresh : Bool

namespace FeedQuery

def default : FeedQuery := ⟨none, none, 21, false⟩

def fields : List (QueryField FeedQuery) :=
  [⟨"q", fun query s => .ok { query with term := some s }⟩,
    ⟨"page_token", fun query s => .ok { query with pageToken := some s }⟩,
    ⟨"max_results", fun query s => do
      .ok { query with maxResults := ← Web.QueryValue.nat32 s }⟩,
    ⟨"refresh", fun query s => do .ok { query with refresh := ← Web.QueryValue.bool s }⟩]

def page (query : FeedQuery) : Except Failure Feed.PageRequest := do
  let size ← checkedPageSize query.maxResults
  .ok ⟨query.pageToken.filter (· ≠ ""), size, !query.refresh⟩

def searchTerm? (query : FeedQuery) : Option String :=
  (query.term.map Text.trimmed).filter (· ≠ "")

end FeedQuery

def videos (site : Site) (r : Request) : Act Response := do
  let query ← Act.reading (r.readQuery FeedQuery.fields FeedQuery.default)
  let wanted ← Act.checking query.page
  let page ← match query.searchTerm? with
    | some term => Act.feed (site.feed.search term wanted)
    | none => Act.feed (site.feed.latest wanted)
  return .json 200 page.toJson

def videoSearch (site : Site) (r : Request) : Act Response := do
  let query ← Act.reading (r.readQuery FeedQuery.fields FeedQuery.default)
  let wanted ← Act.checking query.page
  match query.searchTerm? with
  | some term => return .json 200 (← Act.feed (site.feed.search term wanted)).toJson
  | none => Act.fail (.badRequest "q must not be empty")

def liveVideo (site : Site) : Act Response := do
  match ← Act.feed (Feed.run site.feed.liveVideo?) with
  | some v => return .json 200 v.toJson
  | none => return .json 200 .null

def wantedCategory (r : Request) : Act (Option EventCategory) := do
  let field : QueryField (Option String) := ⟨"category", fun _ s => .ok (some s)⟩
  match ← Act.reading (r.readQuery [field] none) with
  | none => return none
  | some name =>
    match EventCategory.ofFilter name with
    | .ok wanted => return wanted
    | .error unknown => Act.fail (.badRequest unknown.message)

def events (site : Site) (r : Request) : Act Response := do
  let category ← wantedCategory r
  let found ← Act.store (site.store.events category none)
  return .json 200 (.arr (found.map Event.toJson))

def eventsFile (site : Site) (r : Request) : Act Response := do
  let category ← wantedCategory r
  let found ← Act.store (site.store.events category none)
  if found.isEmpty then Act.fail (.notFound "No events found")
  else
    return .calendar "teamchurch_events.ics" (Calendar.file Calendar.churchName (← Act.now) found)

def foundEvent (site : Site) (id : List Char) : Act Event := do
  let id ← Act.reading (Request.pathText "id" id)
  match ← Act.store (site.store.event? id) with
  | some e => return e
  | none => Act.fail (.notFound "Event not found")

def event (site : Site) (id : List Char) : Act Response := do
  return .json 200 (← foundEvent site id).detail.toJson

def eventFile (site : Site) (id : List Char) : Act Response := do
  let e ← foundEvent site id
  return .calendar e.fileName (Calendar.file Calendar.churchName (← Act.now) [e])

def teams (site : Site) : Act Response := do
  let found ← Act.store (Backend.Roster.publicTeams site.store)
  return .json 200 (.arr (found.map ServingTeamGroup.toJson))

def groups (site : Site) : Act Response := do
  return .json 200 (.arr ((← Act.store (site.store.groups none)).map Group.toJson))

def announcements (site : Site) : Act Response := do
  return .json 200 (.arr ((← Act.store (site.store.announcements true none)).map
    Announcement.toJson))

def believersClass (site : Site) : Act Response := do
  match ← Act.store site.store.activeClass? with
  | some c => return .json 200 c.toJson
  | none => return .json 200 .null

end ParishSite.Service
