import ParishSite.Dialogue
import ParishSite.Feed.Cache
import ParishSite.Feed.Fault
import ParishSite.Feed.Listing
import ParishSite.Settings

/-! The feed of videos: the newest uploads of the channel, searches in it and the stream that is live
now. First pages and searches are answered from the cache where it can answer; a failed request leaves
the cache as it was. -/

namespace ParishSite.Feed

open Web (Outgoing Url)

structure Credentials where
  key : String
  channel : String

structure Client where
  url : Url
  credentials : Option Credentials

namespace Client

def ofSettings (s : Settings) : Client where
  url := s.channelUrl
  credentials := do
    let key ← s.channelKey.filter (· ≠ "")
    let channel ← s.channelId.filter (· ≠ "")
    some ⟨key, channel⟩

end Client

structure PageRequest where
  pageToken : Option String
  maxResults : Nat
  /-- Whether the cache may answer. -/
  mayUseCache : Bool

abbrev Call := ExceptT Fault Dialogue

abbrev CachedCall := ExceptT Fault (StateT Cache Dialogue)

def run (call : Call α) : CachedCall α := ExceptT.mk (StateT.lift call.run)

def now : CachedCall Time.Instant := ExceptT.lift (StateT.lift Dialogue.now)

def onCache (f : Cache → α × Cache) : CachedCall α := do
  let (a, c) := f (← get)
  set c
  return a

namespace Client

def outgoing (c : Client) (what : String) (pairs : List (String × String)) : Outgoing :=
  Outgoing.read ((c.url.extended [what.toList]).withPairs pairs)

def fetch (c : Client) (what : String) (pairs : List (String × String)) (d : Json.Decoder α) :
    Call α := do
  match ← ExceptT.lift (Dialogue.ask (c.outgoing what pairs)) with
  | .dropped => throw .unreachable
  | .answered status body =>
    if Web.isSuccess status then
      match body.map fun bytes => Json.read d (Text.Utf8.symbols bytes) with
      | some (.ok a) => return a
      | _ => throw .unreachable
    else
      let r := Refusal.ofBody body
      throw (.refused status r.reason? (r.message?.getD (Web.refusalText status)))

def needCredentials (c : Client) : Call Credentials :=
  match c.credentials with
  | some known => return known
  | none => throw .notConfigured

private def pagePairs : Option String → List (String × String)
  | some token => [("pageToken", token)]
  | none => []

def liveVideo? (c : Client) : Call (Option Video) := do
  let known ← c.needCredentials
  let found ← c.fetch "search"
    [("part", "snippet"), ("channelId", known.channel), ("eventType", "live"),
      ("type", "video"), ("maxResults", "1"), ("order", "date"), ("key", known.key)]
    SearchList.decoder
  return found.liveVideo?

def uploadsId (c : Client) (known : Credentials) : Call String := do
  let channels ← c.fetch "channels"
    [("part", "contentDetails"), ("id", known.channel), ("key", known.key)] ChannelList.decoder
  match channels.uploads? with
  | some id => return id
  | none => throw .noUploads

/-- Asks for the details of some videos, unless there are none. -/
def completed (c : Client) (known : Credentials) (videos : List Video) : Call (List Video) := do
  if videos.isEmpty then return videos
  else
    let details ← c.fetch "videos"
      [("part", "contentDetails,statistics"), ("id", ",".intercalate (videos.map Video.id)),
        ("key", known.key)] DetailsList.decoder
    return videos.map details.complete

def fetchLatest (c : Client) (r : PageRequest) : Call VideoPage := do
  let known ← c.needCredentials
  let uploads ← c.uploadsId known
  let list ← c.fetch "playlistItems"
    ([("part", "snippet,contentDetails"), ("playlistId", uploads),
      ("maxResults", toString r.maxResults), ("key", known.key)] ++ pagePairs r.pageToken)
    UploadList.decoder
  return ⟨← c.completed known list.videos, list.nextPageToken⟩

def fetchSearch (c : Client) (query : String) (r : PageRequest) : Call VideoPage := do
  let known ← c.needCredentials
  let list ← c.fetch "search"
    ([("part", "snippet"), ("channelId", known.channel), ("q", query), ("type", "video"),
      ("maxResults", toString r.maxResults), ("order", "relevance"), ("key", known.key)] ++
      pagePairs r.pageToken)
    SearchList.decoder
  return ⟨← c.completed known list.videos, list.nextPageToken⟩

/-- The newest uploads. Only the first page is kept. -/
def latest (c : Client) (r : PageRequest) : CachedCall VideoPage := do
  let isCached := r.pageToken.isNone && r.mayUseCache
  let known ← if isCached then do
      let t ← now
      onCache fun cache => cache.latest t
    else pure none
  match known with
  | some e => return e.page
  | none =>
    let page ← run (c.fetchLatest r)
    if isCached then do
      let t ← now
      modify fun cache => cache.storeLatest page.videos page.nextPageToken t
    return page

/-- What a search finds. Every page is kept under its question. -/
def search (c : Client) (query : String) (r : PageRequest) : CachedCall VideoPage := do
  let query := Text.trimmed query
  let key := Cache.searchKey query r.pageToken r.maxResults
  let known ← if r.mayUseCache then do
      let t ← now
      onCache fun cache => cache.search key t
    else pure none
  match known with
  | some e => return e.page
  | none =>
    let page ← run (c.fetchSearch query r)
    if r.mayUseCache then do
      let t ← now
      modify fun cache => cache.storeSearch key page.videos page.nextPageToken t
    return page

end Client
end ParishSite.Feed
