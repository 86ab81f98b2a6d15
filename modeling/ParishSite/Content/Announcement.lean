import ParishSite.Content.Faults
import ParishSite.Json.Decoder

/-! Announcements, which visitors see once they are published, and the form in which they are
edited. -/

namespace ParishSite

inductive AnnouncementStatus
  | draft
  | published
deriving DecidableEq

namespace AnnouncementStatus

def name : AnnouncementStatus → String
  | draft => "Draft"
  | published => "Published"

def toJson (s : AnnouncementStatus) : Json := .str s.name

def decoder : Json.Decoder AnnouncementStatus :=
  .variant ([draft, published].map fun s => (s.name, s))

end AnnouncementStatus

structure Announcement where
  id : String
  title : String
  content : String
  status : AnnouncementStatus
deriving DecidableEq

namespace Announcement

def toJson (a : Announcement) : Json :=
  .obj [("id", .str a.id), ("title", .str a.title), ("content", .str a.content),
    ("status", a.status.toJson)]

def decoder : Json.Decoder Announcement :=
  (Json.Record.of Announcement.mk
    |>.required "id" .rowId
    |>.required "title" .string
    |>.required "content" .string
    |>.required "status" AnnouncementStatus.decoder).decoder "Announcement"

end Announcement

structure AnnouncementForm where
  title : String
  content : String
  status : AnnouncementStatus
deriving DecidableEq

namespace AnnouncementForm

def decoder : Json.Decoder AnnouncementForm :=
  (Json.Record.of AnnouncementForm.mk
    |>.required "title" .string
    |>.required "content" .string
    |>.required "status" AnnouncementStatus.decoder).decoder "AnnouncementInput"

def toJson (f : AnnouncementForm) : Json :=
  .obj [("title", .str f.title), ("content", .str f.content), ("status", f.status.toJson)]

def faults (f : AnnouncementForm) : List FieldFault :=
  FieldFault.whenShort f.title 3 "title" "Title must be at least 3 characters." ++
    FieldFault.whenShort f.content 10 "content" "Content must be at least 10 characters."

def columns (f : AnnouncementForm) : List (String × Json) :=
  [("title", .str (Text.trimmed f.title)), ("content", .str (Text.trimmed f.content)),
    ("status", f.status.toJson)]

end AnnouncementForm
end ParishSite
