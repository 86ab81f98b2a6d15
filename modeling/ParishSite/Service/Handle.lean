import ParishSite.Docs.Document
import ParishSite.Service.Admin
import ParishSite.Service.Public
import ParishSite.Service.Route

/-! From a request to its answer. Pages of other sites may read every answer, and every question of a
browser about that is answered before the path is looked at. -/

namespace ParishSite.Service

open Web (Request Response)

/-- Does what an endpoint is for; `id` is the part of the path that stands for an id. -/
def act (site : Site) (id : List Char) (r : Request) : Endpoint → Act Response
  | .root => return root
  | .live => return live
  | .ready => return ready site
  | .videos => videos site r
  | .videoSearch => videoSearch site r
  | .liveVideo => liveVideo site
  | .events => events site r
  | .eventsFile => eventsFile site r
  | .event => event site id
  | .eventFile => eventFile site id
  | .teams => teams site
  | .groups => groups site
  | .announcements => announcements site
  | .believersClass => believersClass site
  | .dashboard => dashboard site r
  | .login => login site r
  | .logout => logout site r
  | .session => session site r
  | .changePassword => changePassword site r
  | .recoverPassword => recoverPassword site r
  | .list t => list site t r
  | .create t => create site t r
  | .update t => update site t id r
  | .remove t => remove site t id r

def respond (site : Site) (m : Memory) (id : List Char) (r : Request) (e : Endpoint) :
    Dialogue (Response × Memory) := do
  let (outcome, m) ← (act site id r e).run.run m
  match outcome with
  | .ok response => return (response, m)
  | .error why => return (why.toResponse, m)

def sharedHeaders : List (String × String) :=
  [("access-control-allow-origin", "*"), ("access-control-expose-headers", "*"),
    ("vary", "origin, access-control-request-method, access-control-request-headers")]

/-- What a browser is told that asks what it may send. -/
def permissionHeaders : List (String × String) :=
  [("access-control-allow-headers", "*"), ("access-control-allow-methods", "*"),
    ("access-control-allow-origin", "*"),
    ("vary", "origin, access-control-request-method, access-control-request-headers")]

private def allowHeader (r : Route) : List (String × String) := [("allow", r.allowed)]

/-- The answer at the path of the API document, which can be read and nothing else. -/
def showDocument (r : Request) : Response :=
  let allow := [("allow", "GET,HEAD")]
  let response := (Response.json 200 Docs.document).withHeaders sharedHeaders
  match r.method with
  | "OPTIONS" => ⟨200, permissionHeaders ++ allow, .empty⟩
  | "GET" => response
  | "HEAD" => response.withoutBody
  | _ => ⟨405, allow ++ sharedHeaders, .empty⟩

def Site.showsDocument (site : Site) (r : Request) : Bool :=
  site.settings.hasApiDocs && r.path == documentPath

/-- The answer to a request, and what is remembered after it. -/
def handle (site : Site) (m : Memory) (r : Request) : Dialogue (Response × Memory) := do
  if site.showsDocument r then return (showDocument r, m)
  else
    let route := findRoute? r.path
    if r.method = "OPTIONS" then
      let allow := route.elim [] fun (route, _) => allowHeader route
      return (⟨200, permissionHeaders ++ allow, .empty⟩, m)
    else
      match route with
      | none => return (⟨404, sharedHeaders, .empty⟩, m)
      | some (route, id) =>
        match route.action? r.method with
        | none => return (⟨405, allowHeader route ++ sharedHeaders, .empty⟩, m)
        | some e =>
          let (response, m) ← respond site m id r e
          let response := response.withHeaders sharedHeaders
          return (if r.method = "HEAD" then response.withoutBody else response, m)

end ParishSite.Service
