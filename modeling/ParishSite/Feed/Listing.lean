import ParishSite.Content.Video

/-! What the service of the channel tells about videos, and how videos are made of it. Nearly
everything may be missing; an item without the id of a video is passed over. -/

namespace ParishSite.Feed

/-- The pictures of a video, the largest first. -/
structure Thumbnails where
  high : Option (Option String)
  medium : Option (Option String)
  default : Option (Option String)

namespace Thumbnails

private def picture : Json.Decoder (Option String) :=
  (Json.Record.of (fun url : Option String => url) |>.optional "url" .string).decoder "Thumbnail"

def decoder : Json.Decoder Thumbnails :=
  (Json.Record.of (fun default medium high => Thumbnails.mk high medium default)
    |>.optional "default" picture
    |>.optional "medium" picture
    |>.optional "high" picture).decoder "Thumbnails"

/-- The largest picture that has an address, or no address at all. -/
def url (t : Thumbnails) : String :=
  let urls := [t.high, t.medium, t.default].filterMap fun p => p.bind fun u => u
  (urls.find? (· ≠ "")).getD ""

end Thumbnails

structure Snippet where
  title : Option String
  description : Option String
  publishedAt : Option String
  /-- The id of the video that an upload is about; it may be missing in two ways. -/
  resourceId : Option (Option String)
  thumbnails : Option Thumbnails

namespace Snippet

def empty : Snippet := ⟨none, none, none, none, none⟩

private def videoId : Json.Decoder (Option String) :=
  (Json.Record.of (fun id : Option String => id) |>.optional "videoId" .string).decoder "ResourceId"

def decoder : Json.Decoder Snippet :=
  (Json.Record.of Snippet.mk
    |>.optional "title" .string
    |>.optional "description" .string
    |>.optional "publishedAt" .string
    |>.optional "resourceId" videoId
    |>.optional "thumbnails" Thumbnails.decoder).decoder "Snippet"

/-- The video with an id; a title is made up where none is told. -/
def video (s : Snippet) (id fallbackTitle : String) : Video where
  id := id
  title := (s.title.filter (· ≠ "")).getD fallbackTitle
  description := s.description.getD ""
  publishedAt := s.publishedAt.getD ""
  thumbnailUrl := s.thumbnails.elim "" Thumbnails.url
  embedUrl := Video.embedUrlFor id
  watchUrl := Video.watchUrlFor id
  duration := none
  viewCount := none

end Snippet

structure ChannelList where
  /-- The ids of the lists; each may be missing. -/
  uploads : List (Option String)

namespace ChannelList

private def playlists : Json.Decoder (Option String) :=
  (Json.Record.of (fun id : Option String => id)
    |>.optional "uploads" .string).decoder "RelatedPlaylists"

private def details : Json.Decoder (Option String) :=
  (Json.Record.of (fun id : Option (Option String) => id.bind fun i => i)
    |>.optional "relatedPlaylists" playlists).decoder "ChannelContentDetails"

private def item : Json.Decoder (Option String) :=
  (Json.Record.of (fun id : Option (Option String) => id.bind fun i => i)
    |>.optional "contentDetails" details).decoder "ChannelItem"

def decoder : Json.Decoder ChannelList :=
  (Json.Record.of ChannelList.mk
    |>.defaulted "items" (.list item) []).decoder "ChannelListResponse"

def uploads? (l : ChannelList) : Option String :=
  (l.uploads.head?.bind fun id => id).filter (· ≠ "")

end ChannelList

structure UploadList where
  nextPageToken : Option String
  items : List (Option Snippet)

namespace UploadList

private def item : Json.Decoder (Option Snippet) :=
  (Json.Record.of (fun s : Option Snippet => s)
    |>.optional "snippet" Snippet.decoder).decoder "PlaylistItem"

def decoder : Json.Decoder UploadList :=
  (Json.Record.of UploadList.mk
    |>.optional "nextPageToken" .string
    |>.defaulted "items" (.list item) []).decoder "PlaylistItemsResponse"

private def videoOf? (item : Option Snippet) : Option Video := do
  let s ← item
  let id ← (← s.resourceId).filter (· ≠ "")
  some (s.video id "Untitled video")

def videos (l : UploadList) : List Video := l.items.filterMap videoOf?

end UploadList

structure SearchItem where
  /-- The id of a video; it may be missing in two ways. -/
  id : Option (Option String)
  snippet : Option Snippet

structure SearchList where
  nextPageToken : Option String
  items : List SearchItem

namespace SearchItem

private def foundId : Json.Decoder (Option String) :=
  (Json.Record.of (fun id : Option String => id)
    |>.optional "videoId" .string).decoder "SearchItemId"

def decoder : Json.Decoder SearchItem :=
  (Json.Record.of SearchItem.mk
    |>.optional "id" foundId
    |>.optional "snippet" Snippet.decoder).decoder "SearchItem"

def video? (fallbackTitle : String) (item : SearchItem) : Option Video := do
  let id ← (← item.id).filter (· ≠ "")
  some ((item.snippet.getD Snippet.empty).video id fallbackTitle)

end SearchItem

namespace SearchList

def decoder : Json.Decoder SearchList :=
  (Json.Record.of SearchList.mk
    |>.optional "nextPageToken" .string
    |>.defaulted "items" (.list SearchItem.decoder) []).decoder "SearchResponse"

def videos (l : SearchList) : List Video := l.items.filterMap (SearchItem.video? "Untitled video")

def liveVideo? (l : SearchList) : Option Video := l.items.findSome? (SearchItem.video? "Live stream")

end SearchList

structure Details where
  id : Option String
  duration : Option String
  viewCount : Option String

structure DetailsList where
  items : List Details

namespace DetailsList

private def content : Json.Decoder (Option String) :=
  (Json.Record.of (fun d : Option String => d)
    |>.optional "duration" .string).decoder "VideoContentDetails"

private def statistics : Json.Decoder (Option String) :=
  (Json.Record.of (fun n : Option String => n)
    |>.optional "viewCount" .string).decoder "VideoStatistics"

private def item : Json.Decoder Details :=
  (Json.Record.of (fun id content statistics =>
      Details.mk id (content.bind fun d => d) (statistics.bind fun n => n))
    |>.optional "id" .string
    |>.optional "contentDetails" content
    |>.optional "statistics" statistics).decoder "VideoItem"

def decoder : Json.Decoder DetailsList :=
  (Json.Record.of DetailsList.mk
    |>.defaulted "items" (.list item) []).decoder "VideoListResponse"

def find? (l : DetailsList) (id : String) : Option Details :=
  l.items.reverse.find? fun d => d.id = some id

def complete (l : DetailsList) (v : Video) : Video :=
  match l.find? v.id with
  | some d => { v with duration := d.duration, viewCount := d.viewCount }
  | none => v

end DetailsList

structure Refusal where
  message : Option String
  /-- The reason and the message of each error. -/
  errors : List (Option String × Option String)

namespace Refusal

def empty : Refusal := ⟨none, []⟩

private def detail : Json.Decoder (Option String × Option String) :=
  (Json.Record.of (fun (reason message : Option String) => (reason, message))
    |>.optional "reason" .string
    |>.optional "message" .string).decoder "ErrorDetail"

private def inner : Json.Decoder Refusal :=
  (Json.Record.of Refusal.mk
    |>.optional "message" .string
    |>.defaulted "errors" (.list detail) []).decoder "ErrorBody"

def decoder : Json.Decoder Refusal :=
  (Json.Record.of (fun r : Option Refusal => r.getD empty)
    |>.optional "error" inner).decoder "ErrorEnvelope"

/-- What a body says; a body of any other shape says nothing. -/
def ofBody (body : Option (List UInt8)) : Refusal :=
  (body.bind fun bytes => (Json.read decoder (Text.Utf8.symbols bytes)).toOption).getD empty

def reason? (r : Refusal) : Option String := r.errors.head?.bind (·.1)

/-- The message of the first error, or of the whole refusal, if it says anything. -/
def message? (r : Refusal) : Option String :=
  let told := match r.errors.head?.bind (·.2) with
    | some s => some s
    | none => r.message
  told.filter (· ≠ "")

end Refusal
end ParishSite.Feed
