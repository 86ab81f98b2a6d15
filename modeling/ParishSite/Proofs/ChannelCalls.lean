import ParishSite.Feed.Client
import ParishSite.Proofs.DialogueContract

/-! The channel is only ever read, with its own key and nobody's token. How often it is asked depends on
the cache and on the replies, and nothing else is asked in any case. -/

namespace ParishSite.Feed

open Web (Outgoing)

/-- The channel may be read at any time. -/
def Client.IsOpen (allowed : History → Outgoing → Prop) (c : Client) : Prop :=
  ∀ past what pairs, allowed past (c.outgoing what pairs)

variable {allowed : History → Outgoing → Prop} {c : Client} {past : History}

namespace Client

theorem fetch_asks (free : c.IsOpen allowed) {what : String} {pairs : List (String × String)}
    {d : Json.Decoder α} : Asks allowed (fun _ _ => True) (c.fetch what pairs d) past := by
  have asked : Asks (ε := Fault) allowed (fun _ _ => True)
      (ExceptT.lift (Dialogue.ask (c.outgoing what pairs))) past :=
    Asks.lift (Dialogue.Keeps.ask (free past what pairs) (fun _ => trivial) trivial)
  refine asked.bind ?_
  intro later reply _ _
  cases reply with
  | dropped => exact Asks.throw _
  | answered status body =>
    dsimp only
    split
    · split
      · exact Asks.pure trivial
      · exact Asks.throw _
    · exact Asks.throw _

theorem needCredentials_asks : Asks allowed (fun _ _ => True) c.needCredentials past := by
  unfold needCredentials
  split
  · exact Asks.pure trivial
  · exact Asks.throw _

theorem completed_asks (free : c.IsOpen allowed) (known : Credentials) (videos : List Video) :
    Asks allowed (fun _ _ => True) (c.completed known videos) past := by
  unfold completed
  split
  · exact Asks.pure trivial
  · exact (fetch_asks free).bind fun _ _ _ _ => Asks.pure trivial

theorem liveVideo_asks (free : c.IsOpen allowed) :
    Asks allowed (fun _ _ => True) c.liveVideo? past := by
  refine needCredentials_asks.bind ?_
  intro later known _ _
  exact (fetch_asks free).bind fun _ _ _ _ => Asks.pure trivial

theorem fetchLatest_asks (free : c.IsOpen allowed) (r : PageRequest) :
    Asks allowed (fun _ _ => True) (c.fetchLatest r) past := by
  refine needCredentials_asks.bind ?_
  intro _ known _ _
  have uploads (later : History) : Asks allowed (fun _ _ => True) (c.uploadsId known) later := by
    refine (fetch_asks free).bind ?_
    intro _ channels _ _
    split
    · exact Asks.pure trivial
    · exact Asks.throw _
  refine (uploads _).bind ?_
  intro _ _ _ _
  refine (fetch_asks free).bind ?_
  intro _ list _ _
  exact (completed_asks free known list.videos).bind fun _ _ _ _ => Asks.pure trivial

theorem fetchSearch_asks (free : c.IsOpen allowed) (query : String) (r : PageRequest) :
    Asks allowed (fun _ _ => True) (c.fetchSearch query r) past := by
  refine needCredentials_asks.bind ?_
  intro _ known _ _
  refine (fetch_asks free).bind ?_
  intro _ list _ _
  exact (completed_asks free known list.videos).bind fun _ _ _ _ => Asks.pure trivial

end Client

variable {cache : Cache}

theorem run_holds {call : Call α} (asks : Asks allowed (fun _ _ => True) call past) :
    Holds allowed (fun _ _ _ => True) (run call) cache past :=
  Dialogue.Keeps.bind asks fun _ _ _ _ _ => trivial

theorem now_holds : Holds allowed (fun _ _ _ => True) now cache past := Holds.lift fun _ => trivial

theorem onCache_holds (f : Cache → α × Cache) :
    Holds allowed (fun _ _ _ => True) (onCache f) cache past := fun _ _ => trivial

theorem modify_holds (f : Cache → Cache) :
    Holds (ε := Fault) allowed (fun _ _ _ => True) (modify f) cache past := fun _ _ => trivial

/-- A page is looked up in the cache, if that may answer, and otherwise asked for and kept. -/
def cached (mayUse : Bool) (look : Time.Instant → Cache → Option CacheEntry × Cache)
    (call : Call VideoPage) (keep : VideoPage → Time.Instant → Cache → Cache) :
    CachedCall VideoPage := do
  let known ← if mayUse then do
      let t ← now
      onCache (look t)
    else pure none
  match known with
  | some e => return e.page
  | none =>
    let page ← run call
    if mayUse then do
      let t ← now
      modify (keep page t)
    return page

theorem cached_holds {mayUse : Bool} {look : Time.Instant → Cache → Option CacheEntry × Cache}
    {call : Call VideoPage} {keep : VideoPage → Time.Instant → Cache → Cache}
    (asks : ∀ later, Asks allowed (fun _ _ => True) call later) :
    Holds allowed (fun _ _ _ => True) (cached mayUse look call keep) cache past := by
  have answered (known : Option CacheEntry) (kept : Cache) (later : History) :
      Holds allowed (fun _ _ _ => True)
        (match known with
        | some e => return e.page
        | none => do
          let page ← run call
          if mayUse then do
            let t ← now
            modify (keep page t)
          return page) kept later := by
    cases known with
    | some e => exact Holds.pure trivial
    | none =>
      refine (run_holds (asks _)).bind ?_
      intro _ _ page _ _
      dsimp only
      split
      · refine now_holds.bind ?_
        intro _ _ t _ _
        exact (modify_holds _).bind fun _ _ _ _ _ => Holds.pure trivial
      · exact Holds.pure trivial
  cases mayUse with
  | true =>
    refine now_holds.bind ?_
    intro _ _ t _ _
    exact (onCache_holds _).bind fun _ _ known _ _ => answered known _ _
  | false => exact answered none cache past

namespace Client

theorem latest_eq (c : Client) (r : PageRequest) :
    c.latest r = cached (r.pageToken.isNone && r.mayUseCache) (fun now cache => cache.latest now)
      (c.fetchLatest r) fun page now cache => cache.storeLatest page.videos page.nextPageToken now :=
  rfl

theorem search_eq (c : Client) (query : String) (r : PageRequest) :
    c.search query r =
      let key := Cache.searchKey (Text.trimmed query) r.pageToken r.maxResults
      cached r.mayUseCache (fun now cache => cache.search key now)
        (c.fetchSearch (Text.trimmed query) r) fun page now cache =>
          cache.storeSearch key page.videos page.nextPageToken now :=
  rfl

theorem latest_holds (free : c.IsOpen allowed) (r : PageRequest) :
    Holds allowed (fun _ _ _ => True) (c.latest r) cache past := by
  rw [latest_eq]
  exact cached_holds fun _ => fetchLatest_asks free r

theorem search_holds (free : c.IsOpen allowed) (query : String) (r : PageRequest) :
    Holds allowed (fun _ _ _ => True) (c.search query r) cache past := by
  rw [search_eq]
  exact cached_holds fun _ => fetchSearch_asks free (Text.trimmed query) r

end Client
end ParishSite.Feed
