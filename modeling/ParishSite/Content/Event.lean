import ParishSite.Content.Faults
import ParishSite.Json.Decoder
import ParishSite.Json.Encode
import ParishSite.Text.LowerCase

/-! Events of the church, and the form in which they are edited. A row of the form holds no blank
text: what was left blank is no value. -/

namespace ParishSite

inductive EventCategory
  | worship
  | community
  | youth
  | kids
deriving DecidableEq

namespace EventCategory

def name : EventCategory → String
  | worship => "Worship"
  | community => "Community"
  | youth => "Youth"
  | kids => "Kids"

def all : List EventCategory := [worship, community, youth, kids]

def toJson (c : EventCategory) : Json := .str c.name

def decoder : Json.Decoder EventCategory := .variant (all.map fun c => (c.name, c))

end EventCategory

/-- A name that no category has, in lower case. -/
structure UnknownCategory where
  name : String
deriving DecidableEq

def UnknownCategory.message (u : UnknownCategory) : String :=
  "unknown event category '" ++ u.name ++ "'"

/-- The category that visitors ask for; no text, or `all`, asks for every category. -/
def EventCategory.ofFilter (text : String) : Except UnknownCategory (Option EventCategory) :=
  let wanted := Text.lowerAscii (Text.trimmed text)
  if wanted = "" ∨ wanted = "all" then .ok none
  else
    match all.find? fun c => Text.lowerAscii c.name = wanted with
    | some c => .ok (some c)
    | none => .error ⟨wanted⟩

structure Event where
  id : String
  title : String
  description : Option String
  category : EventCategory
  location : Option String
  start : Time.Instant
  finish : Time.Instant
  imageUrl : Option String
deriving DecidableEq

namespace Event

def members (e : Event) : List (String × Json) :=
  [("id", .str e.id), ("title", .str e.title), ("description", Json.text? e.description),
    ("category", e.category.toJson), ("location", Json.text? e.location),
    ("start", Json.instant e.start), ("end", Json.instant e.finish),
    ("image_url", Json.text? e.imageUrl)]

def toJson (e : Event) : Json := .obj e.members

def record : Json.Record Event :=
  Json.Record.of Event.mk
    |>.required "id" .rowId
    |>.required "title" .string
    |>.optional "description" .string
    |>.required "category" EventCategory.decoder
    |>.optional "location" .string
    |>.required "start" .instant
    |>.required "end" .instant
    |>.optional "image_url" .string

def decoder : Json.Decoder Event := record.decoder "Event"

end Event

structure EventDetail where
  event : Event
  calendarUrl : String
  fileUrl : String
deriving DecidableEq

namespace EventDetail

def toJson (d : EventDetail) : Json :=
  .obj (d.event.members ++
    [("google_calendar_url", .str d.calendarUrl), ("ics_url", .str d.fileUrl)])

def decoder : Json.Decoder EventDetail :=
  Json.Record.decoderWith "EventDetail"
    (Json.Record.of (fun calendarUrl fileUrl event => EventDetail.mk event calendarUrl fileUrl)
      |>.required "google_calendar_url" .string
      |>.required "ics_url" .string)
    Event.record

end EventDetail

structure EventForm where
  title : String
  description : String
  category : EventCategory
  location : String
  start : Option Time.Instant
  finish : Option Time.Instant
  imageUrl : String
deriving DecidableEq

namespace EventForm

def decoder : Json.Decoder EventForm :=
  (Json.Record.of EventForm.mk
    |>.required "title" .string
    |>.defaulted "description" .string ""
    |>.required "category" EventCategory.decoder
    |>.defaulted "location" .string ""
    |>.optional "start" .instant
    |>.optional "end" .instant
    |>.defaulted "image_url" .string "").decoder "EventInput"

def toJson (f : EventForm) : Json :=
  .obj [("title", .str f.title), ("description", .str f.description),
    ("category", f.category.toJson), ("location", .str f.location),
    ("start", Json.instant? f.start), ("end", Json.instant? f.finish),
    ("image_url", .str f.imageUrl)]

def faults (f : EventForm) : List FieldFault :=
  FieldFault.whenShort f.title 3 "title" "Title must be at least 3 characters." ++
    FieldFault.when f.start.isNone "start" "Start date/time is required." ++
    FieldFault.when f.finish.isNone "end" "End date/time is required." ++
    FieldFault.whenShort f.location 3 "location" "Location must be at least 3 characters."

def columns (f : EventForm) : List (String × Json) :=
  [("title", .str (Text.trimmed f.title)), ("description", Json.text? (filledIn? f.description)),
    ("category", f.category.toJson), ("location", Json.text? (filledIn? f.location)),
    ("start", Json.instant? f.start), ("end", Json.instant? f.finish),
    ("image_url", Json.text? (filledIn? f.imageUrl))]

end EventForm
end ParishSite
