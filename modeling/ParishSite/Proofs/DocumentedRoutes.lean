import ParishSite.Proofs.HandlingRuns

/-! The API document and the routes agree. Whatever reaches an endpoint is listed with its path and its
method, nothing else is listed, and the document itself is read without asking anybody. -/

namespace ParishSite.Service

open Web (Request Response)

theorem Route.matchParts_tail {segment : Segment} {more : List Segment} {part : List Char}
    {parts : List (List Char)} {id : List Char}
    (fits : matchParts (segment :: more) (part :: parts) = some id) :
    ∃ id, matchParts more parts = some id := by
  cases segment with
  | fixed text =>
    rw [matchParts, Option.ite_none_right_eq_some] at fits
    exact ⟨id, fits.2⟩
  | id =>
    rw [matchParts, Option.ite_none_left_eq_some] at fits
    obtain ⟨id, found, -⟩ := Option.map_eq_some_iff.mp fits.2
    exact ⟨id, found⟩

def Apart : List Segment → List Segment → Bool
  | [], [] => false
  | [], _ :: _ | _ :: _, [] => true
  | .fixed text :: more, .fixed text' :: more' => text ≠ text' || Apart more more'
  | _ :: more, _ :: more' => Apart more more'

theorem Route.matchParts_apart {a b : List Segment} (apart : Apart a b = true)
    {parts : List (List Char)} {id id' : List Char} (fits : matchParts a parts = some id) :
    matchParts b parts ≠ some id' := by
  intro fits'
  fun_induction Apart a b generalizing parts id id' with
  | case1 => cases apart
  | case2 segment more =>
    cases parts with
    | nil => cases segment <;> cases fits'
    | cons part parts => cases fits
  | case3 segment more =>
    cases parts with
    | nil => cases segment <;> cases fits
    | cons part parts => cases fits'
  | case4 text more text' more' ih =>
    cases parts with
    | nil => cases fits
    | cons part parts =>
      rw [matchParts, Option.ite_none_right_eq_some] at fits fits'
      obtain ⟨rfl, fits⟩ := fits
      obtain ⟨rfl, fits'⟩ := fits'
      exact ih (by simpa using apart) fits fits'
  | case5 segment more segment' more' _ ih =>
    cases parts with
    | nil => cases segment <;> cases fits
    | cons part parts =>
      obtain ⟨_, fits⟩ := matchParts_tail fits
      obtain ⟨_, fits'⟩ := matchParts_tail fits'
      exact ih apart fits fits'

theorem routes_apart : routes.Pairwise fun a b => Apart a.segments b.segments = true := by
  decide +kernel

private theorem findSome?_apart {known : List Route} {parts : List (List Char)} {route : Route}
    {id : List Char} (apart : known.Pairwise fun a b => Apart a.segments b.segments = true) :
    (known.findSome? fun r => (Route.matchParts r.segments parts).map fun id => (r, id)) =
      some (route, id) ↔ route ∈ known ∧ Route.matchParts route.segments parts = some id := by
  induction known with
  | nil => simp
  | cons other known ih =>
    obtain ⟨here, later⟩ := List.pairwise_cons.mp apart
    rw [List.findSome?_cons]
    cases fits : Route.matchParts other.segments parts with
    | none =>
      rw [Option.map_none, ih later]
      constructor
      · exact fun ⟨member, found⟩ => ⟨List.mem_cons_of_mem other member, found⟩
      · rintro ⟨member, found⟩
        rcases List.mem_cons.mp member with rfl | member
        · rw [fits] at found
          cases found
        · exact ⟨member, found⟩
    | some id' =>
      simp only [Option.map_some, Option.some.injEq, Prod.mk.injEq]
      constructor
      · rintro ⟨rfl, rfl⟩
        exact ⟨List.mem_cons_self, fits⟩
      · rintro ⟨member, found⟩
        rcases List.mem_cons.mp member with rfl | member
        · exact ⟨rfl, Option.some.inj (fits.symm.trans found)⟩
        · exact absurd found (Route.matchParts_apart (here route member) fits)

/-- A path belongs to the route whose shape it has, whatever the order of the routes. -/
theorem findRoute?_iff {path : List Char} {route : Route} {id : List Char} :
    findRoute? path = some (route, id) ↔
      route ∈ routes ∧ ∃ parts, pathParts path = some parts ∧
        Route.matchParts route.segments parts = some id := by
  unfold findRoute?
  rw [Option.bind_eq_bind, Option.bind_eq_some_iff]
  simp only [findSome?_apart routes_apart]
  tauto

/-- A path as the document writes it has the name of the id in braces. -/
def template (path : String) : List Segment :=
  ((pathParts path.toList).getD []).map fun part =>
    if part = "\x7bid\x7d".toList then .id else .fixed part

/-- The methods under a path of the document, as requests write them. -/
def listed : Json → List String
  | .obj operations => operations.map fun (method, _) => String.ofList (method.toList.map Char.toUpper)
  | _ => []

/-- The document lists the paths of the routes and their methods, each of them once. -/
theorem listed_perm_routes :
    (Docs.paths.map fun entry => (template entry.1, listed entry.2)).Perm
      (routes.map fun route => (route.segments, route.actions.map Prod.fst)) := by decide +kernel

/-- The method that a request is treated as; whoever asks for the head alone asks to read. -/
def askedMethod (r : Request) : String := if r.method = "HEAD" then "GET" else r.method

def Documented (r : Request) : Prop :=
  ∃ entry ∈ Docs.paths, askedMethod r ∈ listed entry.2 ∧
    ∃ parts id, pathParts r.path = some parts ∧ Route.matchParts (template entry.1) parts = some id

theorem Route.action?_some_iff {route : Route} {r : Request} :
    (∃ e, route.action? r.method = some e) ↔ askedMethod r ∈ route.actions.map Prod.fst := by
  unfold Route.action? askedMethod
  generalize (if r.method = "HEAD" then "GET" else r.method) = wanted
  rw [← Option.isSome_iff_exists, Option.isSome_map, List.find?_isSome]
  simp

/-- The requests that reach an endpoint are those that the document has an operation for. -/
theorem documented_iff_routed (r : Request) :
    (∃ e id, Routed r e id) ↔ r.method ≠ "OPTIONS" ∧ Documented r := by
  constructor
  · rintro ⟨e, id, asks, route, found, action⟩
    obtain ⟨member, parts, cut, fits⟩ := findRoute?_iff.mp found
    have same := listed_perm_routes.mem_iff.mpr (List.mem_map_of_mem member)
    obtain ⟨entry, inside, shape, methods⟩ : ∃ entry ∈ Docs.paths,
        template entry.1 = route.segments ∧ listed entry.2 = route.actions.map Prod.fst := by
      simpa using same
    have asked := Route.action?_some_iff.mp ⟨e, action⟩
    rw [← methods] at asked
    rw [← shape] at fits
    exact ⟨asks, entry, inside, asked, parts, id, cut, fits⟩
  · rintro ⟨asks, entry, inside, asked, parts, id, cut, fits⟩
    have same := listed_perm_routes.mem_iff.mp (List.mem_map_of_mem inside)
    obtain ⟨route, member, shape, methods⟩ : ∃ route ∈ routes,
        route.segments = template entry.1 ∧ route.actions.map Prod.fst = listed entry.2 := by
      simpa using same
    rw [← methods] at asked
    rw [← shape] at fits
    obtain ⟨e, action⟩ := Route.action?_some_iff.mpr asked
    exact ⟨e, id, asks, route, findRoute?_iff.mpr ⟨member, parts, cut, fits⟩, action⟩

/-- The document is told to everybody if it is offered, and is not there otherwise. Nobody is asked for it
and nothing is remembered of it. -/
theorem document_served (site : Site) (m : Memory) (r : Request) (s : Surroundings)
    (before : Transcript) (path : r.path = documentPath) (method : r.method = "GET") :
    (handle site m r).run s before =
      ((if site.settings.hasApiDocs then (Response.json 200 Docs.document).withHeaders sharedHeaders
        else ⟨404, sharedHeaders, .empty⟩, m), before) := by
  have absent : findRoute? r.path = none := by
    rw [path]
    exact findRoute?_documentPath
  have plain : r.method ≠ "OPTIONS" := by
    rw [method]
    decide
  unfold handle Site.showsDocument showDocument
  cases site.settings.hasApiDocs with
  | true =>
    simp only [path, method]
    rfl
  | false =>
    simp only [Bool.false_and, Bool.false_eq_true, if_false, plain, absent]
    rfl

end ParishSite.Service
