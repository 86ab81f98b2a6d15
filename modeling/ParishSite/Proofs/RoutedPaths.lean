import ParishSite.Proofs.EndpointRequests

/-! Where each endpoint stands: its method and its path. Every endpoint has one place, so a request that
reaches it has that method and a path of that shape. -/

namespace ParishSite.Service

open Backend (Table)
open Web (Request)

def resource : Table → List Char
  | .events => "events".toList
  | .teams => "teams".toList
  | .groups => "groups".toList
  | .announcements => "announcements".toList
  | .believersClasses => "believers-classes".toList

namespace Endpoint

def method : Endpoint → String
  | login | logout | changePassword | recoverPassword | create _ => "POST"
  | update _ => "PUT"
  | remove _ => "DELETE"
  | _ => "GET"

private def fixed (parts : List String) : List Segment := parts.map fun s => .fixed s.toList

def segments : Endpoint → List Segment
  | root => fixed [""]
  | live => fixed ["healthz", "live"]
  | ready => fixed ["healthz", "ready"]
  | videos => fixed ["videos"]
  | videoSearch => fixed ["videos", "search"]
  | liveVideo => fixed ["videos", "live"]
  | events => fixed ["events"]
  | eventsFile => fixed ["events.ics"]
  | event => fixed ["events"] ++ [.id]
  | eventFile => fixed ["events"] ++ [.id] ++ fixed ["ics"]
  | teams => fixed ["teams"]
  | groups => fixed ["groups"]
  | announcements => fixed ["announcements"]
  | believersClass => fixed ["believers-class"]
  | dashboard => fixed ["admin"]
  | login => fixed ["admin", "login"]
  | logout => fixed ["admin", "logout"]
  | session => fixed ["admin", "session"]
  | changePassword => fixed ["admin", "password"]
  | recoverPassword => fixed ["admin", "password", "recover"]
  | list t | create t => fixed ["admin"] ++ [.fixed (resource t)]
  | update t | remove t => fixed ["admin"] ++ [.fixed (resource t), .id]

end Endpoint

/-- The routes put every endpoint into its place. -/
theorem routes_placed : ∀ route ∈ routes, ∀ action ∈ route.actions,
    action.1 = action.2.method ∧ route.segments = action.2.segments := by decide +kernel

variable {r : Request} {e : Endpoint} {id : List Char}

/-- A request that reaches an endpoint asks with its method, or for the head of a read, and its path
matches the path of the endpoint. -/
theorem Routed.placed (routed : Routed r e id) :
    (r.method = e.method ∨ r.method = "HEAD" ∧ e.method = "GET") ∧
      ∃ parts, pathParts r.path = some parts ∧ Route.matchParts e.segments parts = some id := by
  obtain ⟨-, route, found, acts⟩ := routed
  obtain ⟨parts, cut, found⟩ := Option.bind_eq_some_iff.mp found
  obtain ⟨other, member, found⟩ := List.exists_of_findSome?_eq_some found
  obtain ⟨part, fits, same⟩ := Option.map_eq_some_iff.mp found
  cases same
  obtain ⟨action, found, same⟩ := Option.map_eq_some_iff.mp acts
  have matched := List.find?_some found
  have asked : action.1 = if r.method = "HEAD" then "GET" else r.method := of_decide_eq_true matched
  obtain ⟨named, shaped⟩ := routes_placed route member action (List.mem_of_find?_eq_some found)
  subst same
  rw [shaped] at fits
  refine ⟨?_, parts, cut, fits⟩
  rw [← named]
  split at asked
  · next head => exact .inr ⟨head, asked⟩
  · exact .inl asked.symm

def IsAdminPath (path : List Char) : Prop := ∃ more, pathParts path = some ("admin".toList :: more)

private theorem Endpoint.segments_start (e : Endpoint) :
    ∃ text more, e.segments = .fixed text :: more ∧ (e.isAdmin = true ↔ text = "admin".toList) := by
  cases e <;> exact ⟨_, _, rfl, by simp [isAdmin]⟩

/-- The endpoints of the admin pages are those whose paths start like them. -/
theorem Routed.isAdmin_iff (routed : Routed r e id) : e.isAdmin = true ↔ IsAdminPath r.path := by
  obtain ⟨-, parts, cut, fits⟩ := routed.placed
  obtain ⟨text, more, shape, admin⟩ := e.segments_start
  rw [shape] at fits
  cases parts with
  | nil => cases fits
  | cons part parts =>
    rw [Route.matchParts] at fits
    split at fits
    · next same =>
      rw [admin, IsAdminPath, cut, same]
      constructor
      · rintro rfl
        exact ⟨parts, rfl⟩
      · intro ⟨_, start⟩
        exact (List.cons.inj (Option.some.inj start)).1
    · cases fits

private theorem matchParts_fixed {texts : List (List Char)} {parts : List (List Char)}
    {more : List Segment} (fits : Route.matchParts (texts.map .fixed ++ more) parts = some id) :
    ∃ rest, parts = texts ++ rest ∧ Route.matchParts more rest = some id := by
  induction texts generalizing parts with
  | nil => exact ⟨parts, rfl, fits⟩
  | cons text texts ih =>
    cases parts with
    | nil => cases fits
    | cons part parts =>
      rw [List.map_cons, List.cons_append, Route.matchParts] at fits
      split at fits
      · next same =>
        obtain ⟨rest, cut, fits⟩ := ih fits
        exact ⟨rest, by rw [same, cut]; rfl, fits⟩
      · cases fits

private theorem matchParts_nil {parts : List (List Char)}
    (fits : Route.matchParts [] parts = some id) : parts = [] ∧ id = [] := by
  cases parts with
  | nil => exact ⟨rfl, (Option.some.inj fits).symm⟩
  | cons part parts => cases fits

private theorem matchParts_id {parts : List (List Char)}
    (fits : Route.matchParts [.id] parts = some id) : parts = [id] ∧ id ≠ [] := by
  cases parts with
  | nil => cases fits
  | cons part parts =>
    rw [Route.matchParts] at fits
    split at fits
    · cases fits
    · next filled =>
      obtain ⟨_, nothing, rfl⟩ := Option.map_eq_some_iff.mp fits
      obtain ⟨rfl, -⟩ := matchParts_nil nothing
      refine ⟨rfl, ?_⟩
      rintro rfl
      exact filled rfl

private theorem routed_write {texts : List (List Char)} {more : List Segment} (routed : Routed r e id)
    (method : e.method ≠ "GET") (shape : e.segments = texts.map .fixed ++ more) :
    r.method = e.method ∧
      ∃ rest, pathParts r.path = some (texts ++ rest) ∧ Route.matchParts more rest = some id := by
  obtain ⟨asked, parts, cut, fits⟩ := routed.placed
  rw [shape] at fits
  obtain ⟨rest, rfl, behind⟩ := matchParts_fixed fits
  refine ⟨?_, rest, cut, behind⟩
  rcases asked with same | ⟨-, get⟩
  · exact same
  · exact absurd get method

theorem Routed.changePassword (routed : Routed r .changePassword id) :
    r.method = "POST" ∧ pathParts r.path = some ["admin".toList, "password".toList] := by
  have shape : Endpoint.changePassword.segments =
      ["admin".toList, "password".toList].map .fixed ++ [] := rfl
  obtain ⟨method, rest, cut, fits⟩ := routed_write routed (by decide) shape
  obtain ⟨rfl, -⟩ := matchParts_nil fits
  exact ⟨method, cut⟩

theorem Routed.create {t : Table} (routed : Routed r (.create t) id) :
    r.method = "POST" ∧ pathParts r.path = some ["admin".toList, resource t] := by
  have shape : (Endpoint.create t).segments = ["admin".toList, resource t].map .fixed ++ [] := rfl
  obtain ⟨method, rest, cut, fits⟩ := routed_write routed (by simp [Endpoint.method]) shape
  obtain ⟨rfl, -⟩ := matchParts_nil fits
  exact ⟨method, cut⟩

theorem Routed.update {t : Table} (routed : Routed r (.update t) id) :
    r.method = "PUT" ∧ pathParts r.path = some ["admin".toList, resource t, id] := by
  have shape : (Endpoint.update t).segments = ["admin".toList, resource t].map .fixed ++ [.id] := rfl
  obtain ⟨method, rest, cut, fits⟩ := routed_write routed (by simp [Endpoint.method]) shape
  obtain ⟨rfl, -⟩ := matchParts_id fits
  exact ⟨method, cut⟩

theorem Routed.remove {t : Table} (routed : Routed r (.remove t) id) :
    r.method = "DELETE" ∧ pathParts r.path = some ["admin".toList, resource t, id] := by
  have shape : (Endpoint.remove t).segments = ["admin".toList, resource t].map .fixed ++ [.id] := rfl
  obtain ⟨method, rest, cut, fits⟩ := routed_write routed (by simp [Endpoint.method]) shape
  obtain ⟨rfl, -⟩ := matchParts_id fits
  exact ⟨method, cut⟩

end ParishSite.Service
