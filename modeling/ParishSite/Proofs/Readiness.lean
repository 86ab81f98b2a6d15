import ParishSite.Proofs.HandlingRuns
import ParishSite.Proofs.PageProvenance
import ParishSite.Proofs.RosterCourse

/-! Whether the page about readiness is right. What it says of the store is exactly whether the store
can be asked. What it says of the channel holds only where neither its key nor its id is empty: an
empty one counts as given there, and is not used for anything else. -/

namespace ParishSite

open Web (Reply Request Response)

namespace Feed

variable {c : Client} {s : Surroundings} {t : Transcript} {cache : Cache}

namespace Client

/-- There are credentials if both parts are given and none of them is empty. -/
theorem credentials_ofSettings (settings : Settings) :
    (ofSettings settings).credentials ≠ none ↔
      (settings.channelKey.isSome && settings.channelId.isSome) = true ∧
        settings.channelKey ≠ some "" ∧ settings.channelId ≠ some "" := by
  unfold ofSettings
  cases settings.channelKey with
  | none => simp
  | some key =>
    cases settings.channelId with
    | none => by_cases blank : key = "" <;> simp [blank]
    | some channel =>
      by_cases blank : key = "" <;> by_cases unnamed : channel = "" <;>
        simp [blank, unnamed, Option.filter]

theorem outcomeOf_configured (d : Json.Decoder α) (reply : Reply) :
    outcomeOf d reply ≠ .error .notConfigured := by
  cases reply with
  | dropped => simp [outcomeOf]
  | answered status body =>
    unfold outcomeOf
    dsimp only
    split
    · split <;> simp
    · simp

end Client

theorem Question.read_configured (q : Question) (reply : Reply) :
    q.read reply ≠ .error .notConfigured := by
  cases q with
  | channels known =>
    have told := Client.outcomeOf_configured ChannelList.decoder reply
    simp only [Question.read]
    cases outcome : Client.outcomeOf ChannelList.decoder reply with
    | error fault =>
      intro same
      cases same
      exact told outcome
    | ok channels =>
      change channels.uploads?.elim (.error .noUploads) .ok ≠ Except.error Fault.notConfigured
      cases channels.uploads? <;> simp
  | uploads | search | details => exact Client.outcomeOf_configured _ reply

theorem Client.Stops.configured {asked : Inquiry} (known : c.credentials ≠ none) :
    ¬ Stops c asked .notConfigured := by
  intro stops
  cases stops with
  | unconfigured missing => exact known missing
  | failed answered last => exact Question.read_configured _ _ last

namespace FeedCall

theorem fetch_unconfigured (call : FeedCall) (missing : c.credentials = none) :
    runCall s t (call.fetch c) = (.error .notConfigured, t) := by
  have unknown : runCall s t c.needCredentials = (.error .notConfigured, t) := by
    unfold Client.needCredentials
    rw [missing]
    rfl
  cases call with
  | latest r | search query r =>
    refine (runCall_bind _ _).trans ?_
    rw [unknown]

/-- A page that is not looked up fails for want of credentials exactly if there are none. -/
theorem perform_notConfigured_iff (call : FeedCall) (fresh : call.slot? = none) :
    (runAct s cache t (call.perform c)).1.1 = .error .notConfigured ↔ c.credentials = none := by
  obtain ⟨slot, mayUse, place, performed⟩ := call.perform_eq c
  cases mayUse with
  | true =>
    rw [fresh] at place
    cases place
  | false =>
    rw [performed, runAct_cached_plain]
    constructor
    · -- with credentials only the questions can fail, and no reply reads as want of them
      intro failed
      apply Classical.byContradiction
      intro known
      obtain ⟨asked, -, -, ends⟩ := call.fetch_inquires c s t
      dsimp only at failed
      rw [failed] at ends
      cases ends with
      | stopped stops => exact stops.configured known
    · intro missing
      rw [call.fetch_unconfigured missing]

end FeedCall

theorem Fault.toFailure_unavailable {fault : Fault} :
    fault.toFailure.status = 503 ↔ fault = .notConfigured := by
  cases fault <;> simp [toFailure, Failure.status]

end Feed

namespace Backend

theorem Client.outcomeOf_configured (d : Json.Decoder α) (reply : Reply) :
    outcomeOf d reply ≠ .error .notConfigured := by
  cases reply with
  | dropped => simp [outcomeOf]
  | answered status body =>
    unfold outcomeOf
    dsimp only
    split
    · cases body with
      | none => simp
      | some bytes =>
        dsimp only
        cases Json.read d (Text.Utf8.symbols bytes) <;> simp [Except.mapError]
    · simp [Refusal.toFault]

theorem Fault.toFailure_unavailable {fault : Fault} :
    fault.toFailure.status = 503 ↔ fault = .notConfigured := by
  unfold toFailure
  cases fault with
  | notConfigured => simp [isInvalidInput, Failure.status]
  | refused status code message =>
    split
    · simp [Failure.status]
    · dsimp only
      split <;> simp [Failure.status]
  | unreachable | badUrl | unexpected => simp [isInvalidInput, Failure.status]

/-- A read fails for want of a store exactly if there is none. -/
theorem Client.select_notConfigured_iff (c : Client) (q : Query) (d : Json.Decoder α)
    (token : Option String) (s : Surroundings) (t : Transcript) :
    (runCall s t (c.select q d token)).1 = .error .notConfigured ↔ c.isSome = false := by
  cases c with
  | none => exact iff_of_true rfl rfl
  | some a =>
    refine iff_of_false ?_ (by simp)
    rcases (select_puts (a := a) q d token).runs s t with ⟨-, reply, ran⟩ | ⟨-, ran⟩
    · rw [ran]
      exact outcomeOf_configured (.list d) reply
    · rw [ran]
      exact outcomeOf_configured (.list d) .dropped

end Backend

namespace Service

variable {site : Site} {m : Memory} {s : Surroundings} {t : Transcript} {r : Request}

def shownResult (toFailure : ε → Failure) (show' : α → Response) (outcome : Except ε α) :
    Except Refusal Response :=
  (outcome.mapError fun fault => .failed (toFailure fault)).map show'

theorem get_whole (whole : r.method = "GET") : r.method ≠ "HEAD" := by
  rw [whole]
  decide

/-- An answer says that something is not configured. -/
structure Unconfigured (answer : Response) (message : String) : Prop where
  status : answer.status = 503
  body : answer.body = .text message.toList

/-- A service that is unavailable only for one fault says so exactly if a call ended in that fault. -/
theorem unconfigured_iff {toFailure : ε → Failure} {show' : α → Response} {outcome : Except ε α}
    {lacking : ε} {message : String} (whole : r.method = "GET")
    (shown : ∀ value, (show' value).status = 200)
    (only : ∀ fault, (toFailure fault).status = 503 ↔ fault = lacking)
    (words : toFailure lacking = .unavailable message) :
    let answer := delivered r (shownResult toFailure show' outcome)
    (outcome = .error lacking ↔ Unconfigured answer message) ∧
      (answer.status = 503 → Unconfigured answer message) := by
  intro answer
  have status : answer.status = 503 ↔ outcome = .error lacking := by
    rw [delivered_status]
    cases outcome with
    | ok value =>
      change (show' value).status = 503 ↔ _
      rw [shown]
      simp
    | error fault =>
      change (Response.ofFailure (toFailure fault)).status = 503 ↔ _
      rw [ofFailure_status, only, Except.error.injEq]
  have told (failed : outcome = .error lacking) : Unconfigured answer message := by
    refine ⟨status.mpr failed, ?_⟩
    have sent : answer = (Response.ofFailure (toFailure lacking)).withHeaders sharedHeaders := by
      subst failed
      exact delivered_whole (get_whole whole) _
    rw [sent, words]
    rfl
  exact ⟨⟨told, fun unconfigured => status.mp unconfigured.status⟩,
    fun unavailable => told (status.mp unavailable)⟩

def FeedQuery.call (query : FeedQuery) (wanted : Feed.PageRequest) : Feed.FeedCall :=
  match query.searchTerm? with
  | some term => .search term wanted
  | none => .latest wanted

/-- A page of videos is asked for that may not come from the cache. -/
structure FreshVideos (r : Request) (asked : FeedQuery) (wanted : Feed.PageRequest) : Prop where
  method : r.method = "GET"
  routed : ∃ id, Routed r .videos id
  query : r.readQuery FeedQuery.fields FeedQuery.default = .ok asked
  refresh : asked.refresh = true
  page : asked.page = .ok wanted

/-- The events of a category that there is are asked for, or all of them. -/
structure EventList (r : Request) (category : Option EventCategory) : Prop where
  method : r.method = "GET"
  routed : ∃ id, Routed r .events id
  query : ∃ name, r.readQuery [⟨"category", fun _ s => .ok (some s)⟩] none = .ok name ∧
    name.elim (.ok none) EventCategory.ofFilter = .ok category

variable {asked : FeedQuery} {wanted : Feed.PageRequest} {category : Option EventCategory}

theorem FreshVideos.apart (fresh : FreshVideos r asked wanted) :
    (asked.call wanted).slot? = none := by
  have cacheless : wanted.mayUseCache = false := by
    have page := fresh.page
    unfold FeedQuery.page at page
    cases size : checkedPageSize asked.maxResults with
    | error why =>
      rw [size] at page
      cases page
    | ok count =>
      rw [size] at page
      cases page
      exact congrArg not fresh.refresh
  unfold FeedQuery.call
  cases asked.searchTerm? with
  | none => simp [Feed.FeedCall.slot?, cacheless]
  | some term => simp [Feed.FeedCall.slot?, cacheless]

theorem FreshVideos.handled (fresh : FreshVideos r asked wanted) :
    ((handle site m r).run s t).1.1 = delivered r (shownResult Feed.Fault.toFailure
      (fun page => .json 200 page.toJson)
      (runAct s m.cache t ((asked.call wanted).perform site.feed)).1.1) := by
  obtain ⟨id, routed⟩ := fresh.routed
  have acted : ((act site id r .videos).run m s t).1.1 = shownResult Feed.Fault.toFailure
      (fun page => .json 200 page.toJson)
      (runAct s m.cache t ((asked.call wanted).perform site.feed)).1.1 := by
    change ((videos site r).run m s t).1.1 = _
    unfold videos
    rw [Act.run_bind_ok (Act.run_reading fresh.query), Act.run_bind_ok (Act.run_checking fresh.page)]
    unfold FeedQuery.call
    cases asked.searchTerm? with
    | none =>
      refine (Act.run_shown _ _).trans ?_
      rw [Act.run_feed]
      rfl
    | some term =>
      refine (Act.run_shown _ _).trans ?_
      rw [Act.run_feed]
      rfl
  rw [handle_answer routed, acted]

theorem EventList.handled (list : EventList r category) :
    ((handle site m r).run s t).1.1 = delivered r (shownResult Backend.Fault.toFailure
      (fun found => .json 200 (.arr (found.map Event.toJson)))
      (runCall s t (site.store.events category none)).1) := by
  obtain ⟨id, routed⟩ := list.routed
  have acted : ((act site id r .events).run m s t).1.1 = shownResult Backend.Fault.toFailure
      (fun found => .json 200 (.arr (found.map Event.toJson)))
      (runCall s t (site.store.events category none)).1 := by
    obtain ⟨name, read, known⟩ := list.query
    have chosen : (wantedCategory r).run m s t = ((.ok category, m), t) := by
      refine (Act.run_bind_ok (Act.run_reading read)).trans ?_
      cases name with
      | none =>
        cases known
        rfl
      | some name =>
        rw [Option.elim_some] at known
        dsimp only
        rw [known]
        rfl
    change ((events site r).run m s t).1.1 = _
    unfold events
    rw [Act.run_bind_ok chosen]
    refine (Act.run_shown _ _).trans ?_
    rw [Act.run_store]
    rfl
  rw [handle_answer routed, acted]

def readyAnswer (channel store : Bool) : Response :=
  .json 200 (.obj [("status", .str "ok"), ("youtube_configured", .bool channel),
    ("supabase_configured", .bool store)])

theorem handle_ready {id : List Char} (whole : r.method = "GET") (routed : Routed r .ready id) :
    (handle site m r).run s t =
      (((readyAnswer (site.settings.channelKey.isSome && site.settings.channelId.isSome)
        site.store.isSome).withHeaders sharedHeaders, m), t) := by
  have acted : (act site id r .ready).run m s t =
      ((.ok (readyAnswer (site.settings.channelKey.isSome && site.settings.channelId.isSome)
        site.store.isSome), m), t) := rfl
  rw [run_handle routed acted, delivered_whole (get_whole whole)]
  rfl

theorem FreshVideos.unconfigured_iff (fresh : FreshVideos r asked wanted) (site : Site) (m : Memory)
    (s : Surroundings) (t : Transcript) :
    let answer := ((handle site m r).run s t).1.1
    (site.feed.credentials = none ↔ Unconfigured answer "MISSING_YOUTUBE_CONFIG") ∧
      (answer.status = 503 → Unconfigured answer "MISSING_YOUTUBE_CONFIG") := by
  intro answer
  have sent : answer = delivered r _ := fresh.handled
  rw [sent, ← (asked.call wanted).perform_notConfigured_iff fresh.apart]
  exact Service.unconfigured_iff fresh.method (fun _ => rfl)
    (fun _ => Feed.Fault.toFailure_unavailable) rfl

theorem EventList.unconfigured_iff (list : EventList r category) (site : Site) (m : Memory)
    (s : Surroundings) (t : Transcript) :
    let answer := ((handle site m r).run s t).1.1
    let message := "Supabase is not configured. Configure Supabase environment variables."
    (site.store.isSome = false ↔ Unconfigured answer message) ∧
      (answer.status = 503 → Unconfigured answer message) := by
  intro answer message
  have failed : (runCall s t (site.store.events category none)).1 = .error .notConfigured ↔
      site.store.isSome = false := Backend.Client.select_notConfigured_iff _ _ _ _ s t
  have sent : answer = delivered r _ := list.handled
  rw [sent, ← failed]
  exact Service.unconfigured_iff list.method (fun _ => rfl)
    (fun _ => Backend.Fault.toFailure_unavailable) rfl

/-- Whatever is remembered and whatever the other services reply, the page about readiness always says
the same. What it says of the store holds exactly if a list of events does not fail for want of it. What
it says of the channel holds exactly if a page of videos that may not come from the cache does not fail
for want of it, unless the key or the id of the channel is given as an empty text. -/
theorem readiness_told {settings : Settings} {file : Option Feed.CacheFile} {site : Site}
    {start : Memory} (started : start? settings file = some (site, start)) :
    ∃ channel store : Bool,
      (∀ m s t r id, r.method = "GET" → Routed r .ready id →
        (handle site m r).run s t = (((readyAnswer channel store).withHeaders sharedHeaders, m), t)) ∧
      (∀ m s t r asked wanted, FreshVideos r asked wanted →
        let answer := ((handle site m r).run s t).1.1
        (channel = true ∧ settings.channelKey ≠ some "" ∧ settings.channelId ≠ some "" ↔
          ¬ Unconfigured answer "MISSING_YOUTUBE_CONFIG") ∧
        (answer.status = 503 → Unconfigured answer "MISSING_YOUTUBE_CONFIG")) ∧
      (∀ m s t r category, EventList r category →
        let answer := ((handle site m r).run s t).1.1
        let message := "Supabase is not configured. Configure Supabase environment variables."
        (store = true ↔ ¬ Unconfigured answer message) ∧
        (answer.status = 503 → Unconfigured answer message)) := by
  unfold start? at started
  obtain ⟨ttl, -, same⟩ := Option.bind_eq_some_iff.mp started
  cases same
  refine ⟨settings.channelKey.isSome && settings.channelId.isSome,
    (Backend.Client.ofSettings settings).isSome, ?_, ?_, ?_⟩
  · intro m s t r id whole routed
    exact handle_ready whole routed
  · intro m s t r asked wanted fresh
    obtain ⟨told, only⟩ := fresh.unconfigured_iff
      ⟨settings, Backend.Client.ofSettings settings, Feed.Client.ofSettings settings⟩ m s t
    rw [← Feed.Client.credentials_ofSettings]
    exact ⟨not_congr told, only⟩
  · intro m s t r category list
    obtain ⟨told, only⟩ := list.unconfigured_iff
      ⟨settings, Backend.Client.ofSettings settings, Feed.Client.ofSettings settings⟩ m s t
    rw [← Bool.not_eq_false]
    exact ⟨not_congr told, only⟩

private def channelSettings (key : String) : Settings :=
  ⟨false, true, 8080, Settings.defaultChannelUrl, some key, some "UC", 600, none, none, none, none⟩

private def channelSite (key : String) : Site :=
  ⟨channelSettings key, none, Feed.Client.ofSettings (channelSettings key)⟩

private def visit (path : String) (query : Option String) : Request :=
  ⟨"GET", path.toList, query.map String.toList, [], []⟩

private theorem channelSite_starts (key : String) :
    ∃ start, start? (channelSettings key) none = some (channelSite key, start) := by
  have given : (channelSettings "").cacheTtl?.isSome = true := by decide
  obtain ⟨ttl, known⟩ := Option.isSome_iff_exists.mp given
  have same : (channelSettings key).cacheTtl? = some ttl := known
  refine ⟨⟨true, Feed.Cache.new ttl none⟩, ?_⟩
  unfold start?
  rw [same]
  rfl

private theorem visit_ready : Routed (visit "/healthz/ready" none) .ready [] := by
  have found : findRoute? "/healthz/ready".toList =
      some (⟨["healthz".toList, "ready".toList].map .fixed, [("GET", .ready)]⟩, []) := by
    decide
  exact ⟨by decide, _, found, by decide⟩

private theorem visit_videos : FreshVideos (visit "/videos" (some "refresh=true"))
    ⟨none, none, 21, true⟩ ⟨none, 21, false⟩ where
  method := rfl
  routed := by
    have found : findRoute? "/videos".toList =
        some (⟨["videos".toList].map .fixed, [("GET", .videos)]⟩, []) := by decide
    exact ⟨[], by decide, _, found, by decide⟩
  query := rfl
  refresh := rfl
  page := rfl

private theorem visit_events : EventList (visit "/events" none) none where
  method := rfl
  routed := by
    have found : findRoute? "/events".toList =
        some (⟨["events".toList].map .fixed, [("GET", .events)]⟩, []) := by decide
    exact ⟨[], by decide, _, found, by decide⟩
  query := ⟨none, rfl, rfl⟩

private theorem readyAnswer_channel {channel store channel' store' : Bool}
    (same : (readyAnswer channel store).withHeaders sharedHeaders =
      (readyAnswer channel' store').withHeaders sharedHeaders) :
    channel = channel' ∧ store = store' := by
  simpa [readyAnswer, Response.json, Response.withHeaders] using same

private def answerTo (key : String) (r : Request) : Response :=
  ((handle (channelSite key) ⟨true, Feed.Cache.new 0 none⟩ r).run (.unmoved .dropped) .empty).1.1

/-- With a key the channel is said to be configured and it is, and the store is said not to be and it
is not. -/
theorem readiness_of_channel_without_store :
    (∃ start, start? (channelSettings "key") none = some (channelSite "key", start)) ∧
      answerTo "key" (visit "/healthz/ready" none) =
        (readyAnswer true false).withHeaders sharedHeaders ∧
      ¬ Unconfigured (answerTo "key" (visit "/videos" (some "refresh=true")))
        "MISSING_YOUTUBE_CONFIG" ∧
      Unconfigured (answerTo "key" (visit "/events" none))
        "Supabase is not configured. Configure Supabase environment variables." := by
  obtain ⟨start, started⟩ := channelSite_starts "key"
  obtain ⟨channel, store, told, videos, events⟩ := readiness_told started
  have ready : answerTo "key" (visit "/healthz/ready" none) =
      (readyAnswer true false).withHeaders sharedHeaders :=
    congrArg (fun ran => ran.1.1) (handle_ready rfl visit_ready)
  have said := congrArg (fun ran => ran.1.1)
    (told ⟨true, Feed.Cache.new 0 none⟩ (.unmoved .dropped) .empty _ _ rfl visit_ready)
  obtain ⟨rfl, rfl⟩ := readyAnswer_channel (said.symm.trans ready)
  refine ⟨⟨start, started⟩, ready, ?_, ?_⟩
  · exact (videos _ _ _ _ _ _ visit_videos).1.mp ⟨rfl, by decide, by decide⟩
  · apply Classical.byContradiction
    intro configured
    exact Bool.false_ne_true ((events _ _ _ _ _ visit_events).1.mpr configured)

/-- With an empty key the channel is still said to be configured, and every page fails for want of
it. -/
theorem empty_key_told_ready :
    (∃ start, start? (channelSettings "") none = some (channelSite "", start)) ∧
      answerTo "" (visit "/healthz/ready" none) =
        (readyAnswer true false).withHeaders sharedHeaders ∧
      Unconfigured (answerTo "" (visit "/videos" (some "refresh=true")))
        "MISSING_YOUTUBE_CONFIG" := by
  refine ⟨channelSite_starts "", ?_, ?_⟩
  · exact congrArg (fun ran => ran.1.1) (handle_ready rfl visit_ready)
  · exact (visit_videos.unconfigured_iff (channelSite "") _ _ _).1.mp rfl

end Service
end ParishSite
