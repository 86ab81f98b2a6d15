import ParishSite.Content.Video
import ParishSite.Json.Printer
import ParishSite.Text.Utf8

/-! The cache in front of the feed of videos. The latest page is kept in memory and, if a file is
named, saved there, so that a restart costs no request. Answers to searches are kept in memory
alone, no more than 256 of them, and stale ones are dropped whenever a new one comes in. -/

namespace ParishSite.Feed

open Time (Instant Duration)

structure CacheEntry where
  timestamp : Instant
  videos : List Video
  nextPageToken : Option String
deriving DecidableEq

namespace CacheEntry

def toJson (e : CacheEntry) : Json :=
  .obj ([("timestamp", Json.instant e.timestamp), ("data", .arr (e.videos.map Video.toJson))] ++
    Json.given "next_page_token" e.nextPageToken)

def decoder : Json.Decoder CacheEntry :=
  (Json.Record.of CacheEntry.mk
    |>.required "timestamp" .instant
    |>.required "data" (.list Video.decoder)
    |>.defaulted "next_page_token" (.optional .string) none).decoder "CacheEntry"

def age (e : CacheEntry) (now : Instant) : Duration := now.since e.timestamp

def page (e : CacheEntry) : VideoPage := ⟨e.videos, e.nextPageToken⟩

def toBytes (e : CacheEntry) : List UInt8 := Text.Utf8.encode e.toJson.render

def ofBytes? (bytes : List UInt8) : Option CacheEntry :=
  (Json.read decoder (Text.Utf8.symbols bytes)).toOption

end CacheEntry

structure CacheFile where
  contents : Option (List UInt8)
  isWritable : Bool

namespace CacheFile

def replaced (f : CacheFile) (bytes : List UInt8) : CacheFile :=
  if f.isWritable then { f with contents := some bytes } else f

def entry? (f : CacheFile) : Option CacheEntry := f.contents.bind CacheEntry.ofBytes?

end CacheFile

structure Cache where
  ttl : Duration
  file : Option CacheFile
  memory : Option CacheEntry
  /-- The answers to searches, under the keys of their questions. -/
  searches : List (String × CacheEntry)

namespace Cache

def new (ttl : Duration) (file : Option CacheFile) : Cache := ⟨ttl, file, none, []⟩

def maxSearches : Nat := 256

def searchKey (query : String) (pageToken : Option String) (maxResults : Nat) : String :=
  "search:" ++ Text.trimmed query ++ ":" ++ pageToken.getD "first" ++ ":" ++ toString maxResults

/-- The entry in memory while it is younger than the ttl. -/
def remembered? (c : Cache) (now : Instant) : Option CacheEntry :=
  c.memory.filter fun e => e.age now < c.ttl

/-- The entry of the file while it is no older than the ttl. -/
def saved? (c : Cache) (now : Instant) : Option CacheEntry :=
  (c.file.bind CacheFile.entry?).filter fun e => e.age now ≤ c.ttl

/-- The latest page, and the cache after the look at it. An entry that is found in the file is
remembered. -/
def latest (c : Cache) (now : Instant) : Option CacheEntry × Cache :=
  match c.remembered? now with
  | some e => (some e, c)
  | none =>
    match c.saved? now with
    | some e => (some e, { c with memory := some e })
    | none => (none, c)

def storeLatest (c : Cache) (videos : List Video) (nextPageToken : Option String)
    (now : Instant) : Cache :=
  let e : CacheEntry := ⟨now, videos, nextPageToken⟩
  { c with memory := some e, file := c.file.map fun f => f.replaced e.toBytes }

def searchEntry? (c : Cache) (key : String) : Option CacheEntry :=
  (c.searches.find? fun (k, _) => k = key).map (·.2)

def without (key : String) (searches : List (String × CacheEntry)) :
    List (String × CacheEntry) :=
  searches.filter fun (k, _) => k ≠ key

/-- The answer to a search, and the cache after the look at it. A stale answer is dropped. -/
def search (c : Cache) (key : String) (now : Instant) : Option CacheEntry × Cache :=
  match c.searchEntry? key with
  | none => (none, c)
  | some e =>
    if c.ttl < e.age now then (none, { c with searches := without key c.searches })
    else (some e, c)

def oldestKey? : List (String × CacheEntry) → Option String
  | [] => none
  | (key, e) :: rest => some (go key e rest)
where
  go (key : String) (e : CacheEntry) : List (String × CacheEntry) → String
    | [] => key
    | (k, f) :: rest => if f.timestamp.isBefore e.timestamp then go k f rest else go key e rest

def put (key : String) (e : CacheEntry) :
    List (String × CacheEntry) → List (String × CacheEntry)
  | [] => [(key, e)]
  | (k, f) :: rest => if k = key then (k, e) :: rest else (k, f) :: put key e rest

/-- Keeps the answer to a search. Stale answers go first, and a new one takes the place of the oldest
when there is no room. -/
def storeSearch (c : Cache) (key : String) (videos : List Video) (nextPageToken : Option String)
    (now : Instant) : Cache :=
  let fresh := c.searches.filter fun (_, e) => e.age now ≤ c.ttl
  let isKnown := fresh.any fun (k, _) => k = key
  let room :=
    if maxSearches ≤ fresh.length && !isKnown then
      match oldestKey? fresh with
      | some oldest => without oldest fresh
      | none => fresh
    else fresh
  { c with searches := put key ⟨now, videos, nextPageToken⟩ room }

end Cache
end ParishSite.Feed
