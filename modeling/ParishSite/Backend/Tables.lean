import ParishSite.Backend.Client
import ParishSite.Content.Announcement
import ParishSite.Content.BelieversClass
import ParishSite.Content.Event
import ParishSite.Content.Group

/-! The tables of events, groups, announcements and classes, and what is read from them and written
to them. Visitors read with the key of the site; admins read and write with their own tokens. -/

namespace ParishSite.Backend

inductive Table
  | events
  | teams
  | groups
  | announcements
  | believersClasses
deriving DecidableEq

namespace Table

def name : Table → String
  | events => "events"
  | teams => "serving_teams"
  | groups => "groups"
  | announcements => "announcements"
  | believersClasses => "believers_classes"

def query (t : Table) : Query := Query.new t.name

end Table

namespace Client

def remove (c : Client) (t : Table) (id token : String) : Call Bool := c.delete t.name id token

def eventColumns : String := "id,title,description,category,location,start,end,image_url"

/-- The events of a category, or all of them, in the order in which they start. -/
def events (c : Client) (category : Option EventCategory) (token : Option String) :
    Call (List Event) :=
  let q := Table.events.query.select eventColumns
  let q := category.elim q fun wanted => q.eq "category" wanted.name
  c.select (q.order "start" true) Event.decoder token

def event? (c : Client) (id : String) : Call (Option Event) := do
  let q := ((Table.events.query.select eventColumns).eq "id" id).limit 1
  return (← c.select q Event.decoder none).head?

def createEvent (c : Client) (f : EventForm) (token : String) : Call Event :=
  c.insert Table.events.name f.columns Event.decoder token

def updateEvent (c : Client) (id : String) (f : EventForm) (token : String) :
    Call (Option Event) :=
  c.update Table.events.name id f.columns Event.decoder token

def groups (c : Client) (token : Option String) : Call (List Group) :=
  c.select ((Table.groups.query.select "id,name,meeting_time,description").order "name" true)
    Group.decoder token

def createGroup (c : Client) (f : GroupForm) (token : String) : Call Group :=
  c.insert Table.groups.name f.columns Group.decoder token

def updateGroup (c : Client) (id : String) (f : GroupForm) (token : String) :
    Call (Option Group) :=
  c.update Table.groups.name id f.columns Group.decoder token

def announcements (c : Client) (publishedOnly : Bool) (token : Option String) :
    Call (List Announcement) :=
  let q := Table.announcements.query.select "id,title,content,status"
  let q := if publishedOnly then q.eq "status" AnnouncementStatus.published.name else q
  c.select q Announcement.decoder token

def createAnnouncement (c : Client) (f : AnnouncementForm) (token : String) :
    Call Announcement :=
  c.insert Table.announcements.name f.columns Announcement.decoder token

def updateAnnouncement (c : Client) (id : String) (f : AnnouncementForm) (token : String) :
    Call (Option Announcement) :=
  c.update Table.announcements.name id f.columns Announcement.decoder token

def classColumns : String := "id,class_key,starts_label,duration_label,is_active"

/-- The active class that was changed last. -/
def activeClass? (c : Client) : Call (Option BelieversClass) := do
  let q := (((Table.believersClasses.query.select classColumns).eq "is_active" "true").order
    "updated_at" false).limit 1
  return (← c.select q BelieversClassRow.decoder none).head?.map BelieversClass.ofRow

def classes (c : Client) (token : String) : Call (List BelieversClassRow) :=
  c.select ((Table.believersClasses.query.select classColumns).order "updated_at" false)
    BelieversClassRow.decoder (some token)

def createClass (c : Client) (f : BelieversClassForm) (token : String) :
    Call BelieversClassRow := do
  let suffix ← ExceptT.lift Dialogue.keySuffix
  let key := keyFor f.startsLabel "believers-class" suffix
  c.insert Table.believersClasses.name (BelieversClassForm.newColumns key ++ f.columns)
    BelieversClassRow.decoder token

def updateClass (c : Client) (id : String) (f : BelieversClassForm) (token : String) :
    Call (Option BelieversClassRow) :=
  c.update Table.believersClasses.name id f.columns BelieversClassRow.decoder token

end Client
end ParishSite.Backend
