import ParishSite.Content.Event
import ParishSite.Content.Slug
import ParishSite.Text.Fold
import ParishSite.Web.Form

/-! Events as a calendar file, and as a link that takes one event into an online calendar. Texts are
escaped, so that no text of an event can end its line or begin another property. -/

namespace ParishSite

namespace Calendar

/-- Escapes what would end a text value. A carriage return stays as it is. -/
def escapeText (s : List Char) : List Char :=
  s.flatMap fun c =>
    if c = '\\' then ['\\', '\\']
    else if c = ',' then ['\\', ',']
    else if c = ';' then ['\\', ';']
    else if c = '\n' then ['\\', 'n']
    else [c]

def endOfLine : List Char := ['\r', '\n']

def plainLine (s : String) : List Char := s.toList ++ endOfLine

def property (name : String) (value : List Char) : List Char :=
  Text.Fold.fold (name.toList ++ ':' :: value) ++ endOfLine

def textProperty (name value : String) : List Char := property name (escapeText value.toList)

def instantProperty (name : String) (t : Time.Instant) : List Char :=
  property name (Time.Rfc3339.writeCompact t).toList

def givenProperty (name : String) : Option String → List Char
  | some s => if s = "" then [] else textProperty name s
  | none => []

/-- One event, with its properties in alphabetical order. -/
def eventLines (now : Time.Instant) (e : Event) : List Char :=
  plainLine "BEGIN:VEVENT" ++
    plainLine ("DTSTAMP:" ++ Time.Rfc3339.writeCompact now) ++
    givenProperty "DESCRIPTION" e.description ++
    instantProperty "DTEND" e.finish ++
    instantProperty "DTSTART" e.start ++
    givenProperty "LOCATION" e.location ++
    textProperty "SUMMARY" e.title ++
    textProperty "UID" e.id ++
    plainLine "END:VEVENT"

def churchName : String := "Team Church Events"

/-- The file of some events, written at an instant; nothing at all for no events. -/
def file (name : String) (now : Time.Instant) (events : List Event) : List Char :=
  if events.isEmpty then []
  else
    plainLine "BEGIN:VCALENDAR" ++ property "VERSION" "2.0".toList ++
      property "PRODID" "ICALENDAR-RS".toList ++ property "CALSCALE" "GREGORIAN".toList ++
      property "NAME" name.toList ++ textProperty "X-WR-CALNAME" name ++
      events.flatMap (eventLines now) ++ plainLine "END:VCALENDAR"

end Calendar

namespace Event

def details (e : Event) : String :=
  "\n\n".intercalate (([e.description, e.location].filterMap fun part => part).filter (· ≠ ""))

def calendarPairs (e : Event) : List (String × String) :=
  [("action", "TEMPLATE"), ("text", e.title), ("details", e.details),
    ("location", e.location.getD ""),
    ("dates", Time.Rfc3339.writeCompact e.start ++ "/" ++ Time.Rfc3339.writeCompact e.finish)]

def calendarUrl (e : Event) : String :=
  "https://calendar.google.com/calendar/render?" ++
    String.ofList (Web.Form.encode e.calendarPairs)

/-- The name of the event's file, of the title if it gives one and of the id otherwise. -/
def fileName (e : Event) : String :=
  if slug e.title = "" then "event-" ++ slug e.id ++ ".ics" else slug e.title ++ ".ics"

def detail (e : Event) : EventDetail := ⟨e, e.calendarUrl, "/events/" ++ e.id ++ "/ics"⟩

end Event
end ParishSite
