import ParishSite.Json.Decoder
import ParishSite.Json.Encode

/-! Videos of the channel as visitors see them, and pages of videos. Both addresses of a video follow
from its id. What the channel does not tell about a video is left out of its written form. -/

namespace ParishSite

structure Video where
  id : String
  title : String
  description : String
  /-- Empty when unknown. -/
  publishedAt : String
  thumbnailUrl : String
  embedUrl : String
  watchUrl : String
  /-- A length such as `PT1H2M3S`. -/
  duration : Option String
  viewCount : Option String
deriving DecidableEq

namespace Video

def embedUrlFor (id : String) : String := "https://www.youtube.com/embed/" ++ id

def watchUrlFor (id : String) : String := "https://www.youtube.com/watch?v=" ++ id

def toJson (v : Video) : Json :=
  .obj ([("id", .str v.id), ("title", .str v.title), ("description", .str v.description),
    ("published_at", .str v.publishedAt), ("thumbnail_url", .str v.thumbnailUrl),
    ("embed_url", .str v.embedUrl), ("video_url", .str v.watchUrl)] ++
    Json.given "duration" v.duration ++ Json.given "view_count" v.viewCount)

def decoder : Json.Decoder Video :=
  (Json.Record.of Video.mk
    |>.required "id" .string
    |>.required "title" .string
    |>.required "description" .string
    |>.required "published_at" .string
    |>.required "thumbnail_url" .string
    |>.required "embed_url" .string
    |>.required "video_url" .string
    |>.defaulted "duration" (.optional .string) none
    |>.defaulted "view_count" (.optional .string) none).decoder "Video"

end Video

structure VideoPage where
  videos : List Video
  nextPageToken : Option String
deriving DecidableEq

namespace VideoPage

def toJson (p : VideoPage) : Json :=
  .obj (("videos", .arr (p.videos.map Video.toJson)) ::
    Json.given "next_page_token" p.nextPageToken)

def decoder : Json.Decoder VideoPage :=
  (Json.Record.of VideoPage.mk
    |>.required "videos" (.list Video.decoder)
    |>.defaulted "next_page_token" (.optional .string) none).decoder "VideoPage"

end VideoPage
end ParishSite
