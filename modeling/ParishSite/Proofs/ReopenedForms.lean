import ParishSite.Proofs.ExchangedModels
import ParishSite.Proofs.RowsWritten

/-! A row that is opened in its form and saved again as it is shown stays as it was. The form is read
from the values of the columns, its table accepts it, and it is written as the same row. -/

namespace ParishSite

open Json (Decodes)
open Json.Record (Reads)

theorem filledIn?_trimmed (s : String) : filledIn? (Text.trimmed s) = filledIn? s := by
  unfold filledIn?
  rw [Text.trimmed_trimmed]

/-- What was left blank is shown as the empty text, which is blank again. -/
theorem getD_filledIn? (s : String) : (filledIn? s).getD "" = Text.trimmed s := by
  unfold filledIn?
  dsimp only
  split
  · next blank => exact blank.symm
  · rfl

namespace StartsLabel

theorem date?_hyphen {cs : List Char} {d : Time.Date} (found : date? cs = some d) : '-' ∈ cs := by
  unfold date? at found
  split at found
  · simp
  · cases found

theorem date?_year {cs : List Char} {d : Time.Date} (found : date? cs = some d) : 0 ≤ d.year := by
  unfold date? at found
  split at found
  · simp only [Option.bind_eq_bind, Option.bind_eq_some_iff] at found
    obtain ⟨year, -, month, -, day, -, kept⟩ := found
    split at kept
    · rw [← Option.some.inj kept]
      exact Int.natCast_nonneg year
    · cases kept
  · cases found

theorem padded_hyphen (width n : Nat) : '-' ∉ Time.Rfc3339.padded width n := by
  intro member
  have digit := Time.Rfc3339.padded_digits width n '-' member
  revert digit
  decide

theorem dayFirst_hyphen {d : Time.Date} (late : 0 ≤ d.year) : '-' ∉ dayFirst d := by
  have year : '-' ∉ Time.Rfc3339.yearText d.year := by
    unfold Time.Rfc3339.yearText
    split
    · exact padded_hyphen 4 _
    · rw [if_neg (Int.not_lt.mpr late)]
      exact List.not_mem_cons_of_ne_of_not_mem (by decide) (padded_hyphen 4 _)
  intro member
  simp only [dayFirst, List.mem_append, List.mem_cons] at member
  rcases member with (day | slash | month) | slash | after
  · exact padded_hyphen 2 d.day day
  · revert slash
    decide
  · exact padded_hyphen 2 d.month month
  · revert slash
    decide
  · exact year after

theorem normalized_plain {label : String} (other : date? (Text.trim label.toList) = none) :
    normalized label = Text.trimmed label := by
  unfold normalized
  dsimp only
  rw [other]
  rfl

theorem normalized_date {label : String} {d : Time.Date}
    (found : date? (Text.trim label.toList) = some d) :
    normalized label = String.ofList (dayFirst d) := by
  unfold normalized
  dsimp only
  rw [found]
  rfl

/-- The new form of a date is not taken for a date again. -/
theorem normalized_normalized (label : String) : normalized (normalized label) = normalized label := by
  cases found : date? (Text.trim label.toList) with
  | none =>
    have again : date? (Text.trim (Text.trimmed label).toList) = none := by
      rw [Text.trimmed, String.toList_ofList, Text.trim_trim]
      exact found
    rw [normalized_plain found, normalized_plain again, Text.trimmed_trimmed]
  | some d =>
    have other : date? (Text.trim (String.ofList (dayFirst d)).toList) = none := by
      rw [String.toList_ofList, (dayFirst_unbroken d).trim]
      apply Option.eq_none_iff_forall_ne_some.mpr
      intro _ again
      exact dayFirst_hyphen (date?_year found) (date?_hyphen again)
    rw [normalized_date found, normalized_plain other]
    exact (dayFirst_unbroken d).trimmed

end StartsLabel

namespace Backend.Table

def formFields : Table → List String
  | events => ["title", "description", "category", "location", "start", "end", "image_url"]
  | teams => ["group_name", "name", "leader", "description"]
  | groups => ["name", "meeting_time", "description"]
  | announcements => ["title", "content", "status"]
  | believersClasses => ["starts_label", "duration_label", "is_active"]

/-- The value of a column as a form shows it. Where there is none, the field is left empty. -/
def shown : Option Json → Json
  | none | some .null => .str ""
  | some value => value

/-- The form that is opened for a row, as it is sent when nothing in it is changed. -/
def reopened (t : Table) (row : List (String × Json)) : Json :=
  .obj (t.formFields.map fun field => (field, shown (Json.find? field row)))

/-- A form is written as a row, and the row is opened as another form that is written as the same row. -/
structure Reopens (t : Table) (hasLeader : Bool) (f again : t.Form) : Prop where
  read : Decodes 1 t.formDecoder (t.reopened (t.formColumns hasLeader f)) again
  row : t.formColumns hasLeader again = t.formColumns hasLeader f

/-- The rules of a table are about the columns, so that forms with the same row are both without
faults. -/
theorem Reopens.clean {t : Table} {hasLeader : Bool} {f again : t.Form}
    (reopens : t.Reopens hasLeader f again) (clean : t.formFaults hasLeader f = []) :
    t.formFaults hasLeader again = [] := by
  have fields := t.formFaults_fields hasLeader again
  rw [reopens.row, ← t.formFaults_fields, clean, List.map_nil] at fields
  exact List.map_eq_nil_iff.mp fields

theorem shown_filledIn (s : String) :
    shown (some (Json.text? (filledIn? s))) = .str (Text.trimmed s) := by
  rw [← getD_filledIn?]
  cases filledIn? s <;> rfl

theorem shown_instant {t : Option Time.Instant} (given : t.isSome) :
    shown (some (Json.instant? t)) = Json.instant? t := by
  obtain ⟨t, rfl⟩ := Option.isSome_iff_exists.mp given
  rfl

end Backend.Table

open Backend (Table)
open Backend.Table (shown shown_filledIn shown_instant)

theorem FieldFault.isSome_of_when {value : Option α} {field message : String}
    (clean : FieldFault.when value.isNone field message = []) : value.isSome := by
  cases value with
  | none => cases clean
  | some _ => rfl

namespace EventForm

def settled (f : EventForm) : EventForm where
  title := Text.trimmed f.title
  description := Text.trimmed f.description
  category := f.category
  location := Text.trimmed f.location
  start := f.start
  finish := f.finish
  imageUrl := Text.trimmed f.imageUrl

theorem columns_settled (f : EventForm) : f.settled.columns = f.columns := by
  simp only [columns, settled, Text.trimmed_trimmed, filledIn?_trimmed]

theorem times {f : EventForm} (clean : f.faults = []) : f.start.isSome ∧ f.finish.isSome := by
  simp only [faults, List.append_eq_nil_iff] at clean
  obtain ⟨⟨⟨-, start⟩, finish⟩, -⟩ := clean
  exact ⟨FieldFault.isSome_of_when start, FieldFault.isSome_of_when finish⟩

theorem decodes (f : EventForm) : Decodes 1 decoder f.toJson f :=
  (Reads.of EventForm.mk
    |>.required "title" (.string f.title)
    |>.defaulted "description" (.string f.description) ""
    |>.required "category" (f.category.decodes 0)
    |>.defaulted "location" (.string f.location) ""
    |>.optional "start" (.instant? f.start)
    |>.optional "end" (.instant? f.finish)
    |>.defaulted "image_url" (.string f.imageUrl) "").decoder (by decide)

theorem shown_settled {f : EventForm} (clean : f.faults = []) :
    Table.events.reopened f.columns = f.settled.toJson := by
  obtain ⟨start, finish⟩ := times clean
  change Json.obj [("title", .str (Text.trimmed f.title)),
    ("description", shown (some (Json.text? (filledIn? f.description)))),
    ("category", f.category.toJson), ("location", shown (some (Json.text? (filledIn? f.location)))),
    ("start", shown (some (Json.instant? f.start))), ("end", shown (some (Json.instant? f.finish))),
    ("image_url", shown (some (Json.text? (filledIn? f.imageUrl))))] = _
  rw [shown_filledIn, shown_filledIn, shown_filledIn, shown_instant start, shown_instant finish]
  rfl

theorem reopens (hasLeader : Bool) {f : EventForm} (clean : f.faults = []) :
    Table.events.Reopens hasLeader f f.settled where
  read := by
    have decodes := f.settled.decodes
    rwa [← shown_settled clean] at decodes
  row := f.columns_settled

end EventForm

namespace TeamForm

/-- Where the table has no column for the leader, the form shows none. -/
def settled (f : TeamForm) (hasLeader : Bool) : TeamForm where
  groupName := Text.trimmed f.groupName
  name := Text.trimmed f.name
  leader := if hasLeader then Text.trimmed f.leader else ""
  description := Text.trimmed f.description

theorem columns_settled (f : TeamForm) (hasLeader : Bool) :
    (f.settled hasLeader).columns hasLeader = f.columns hasLeader := by
  cases hasLeader
  all_goals
    simp only [columns, settled, Text.trimmed_trimmed, filledIn?_trimmed, Bool.false_eq_true, if_false,
      if_true]

theorem decodes (f : TeamForm) : Decodes 1 decoder f.toJson f :=
  (Reads.of TeamForm.mk
    |>.required "group_name" (.string f.groupName)
    |>.required "name" (.string f.name)
    |>.defaulted "leader" (.string f.leader) ""
    |>.defaulted "description" (.string f.description) "").decoder (by decide)

theorem shown_settled (f : TeamForm) (hasLeader : Bool) :
    Table.teams.reopened (f.columns hasLeader) = (f.settled hasLeader).toJson := by
  have description : Json.find? "description" (f.columns hasLeader) =
    some (Json.text? (filledIn? f.description)) := rfl
  have leader : shown (Json.find? "leader" (f.columns hasLeader)) =
      .str (if hasLeader then Text.trimmed f.leader else "") := by
    cases hasLeader with
    | false => rfl
    | true => exact shown_filledIn f.leader
  change Json.obj [("group_name", .str (Text.trimmed f.groupName)), ("name", .str (Text.trimmed f.name)),
    ("leader", shown (Json.find? "leader" (f.columns hasLeader))),
    ("description", shown (Json.find? "description" (f.columns hasLeader)))] = _
  rw [leader, description, shown_filledIn]
  rfl

theorem reopens (f : TeamForm) (hasLeader : Bool) :
    Table.teams.Reopens hasLeader f (f.settled hasLeader) where
  read := by
    have decodes := (f.settled hasLeader).decodes
    rwa [← shown_settled] at decodes
  row := f.columns_settled hasLeader

end TeamForm

namespace GroupForm

def settled (f : GroupForm) : GroupForm where
  name := Text.trimmed f.name
  meetingTime := Text.trimmed f.meetingTime
  description := Text.trimmed f.description

theorem decodes (f : GroupForm) : Decodes 1 decoder f.toJson f :=
  (Reads.of GroupForm.mk
    |>.required "name" (.string f.name)
    |>.required "meeting_time" (.string f.meetingTime)
    |>.defaulted "description" (.string f.description) "").decoder (by decide)

theorem reopens (f : GroupForm) (hasLeader : Bool) : Table.groups.Reopens hasLeader f f.settled where
  read := f.settled.decodes
  row := by
    change f.settled.columns = f.columns
    simp only [columns, settled, Text.trimmed_trimmed]

end GroupForm

namespace AnnouncementForm

def settled (f : AnnouncementForm) : AnnouncementForm where
  title := Text.trimmed f.title
  content := Text.trimmed f.content
  status := f.status

theorem decodes (f : AnnouncementForm) : Decodes 1 decoder f.toJson f :=
  (Reads.of AnnouncementForm.mk
    |>.required "title" (.string f.title)
    |>.required "content" (.string f.content)
    |>.required "status" (f.status.decodes 0)).decoder (by decide)

theorem reopens (f : AnnouncementForm) (hasLeader : Bool) :
    Table.announcements.Reopens hasLeader f f.settled where
  read := f.settled.decodes
  row := by
    change f.settled.columns = f.columns
    simp only [columns, settled, Text.trimmed_trimmed]

end AnnouncementForm

namespace BelieversClassForm

def settled (f : BelieversClassForm) : BelieversClassForm where
  startsLabel := StartsLabel.normalized f.startsLabel
  durationLabel := Text.trimmed f.durationLabel
  isActive := f.isActive

theorem decodes (f : BelieversClassForm) : Decodes 1 decoder f.toJson f :=
  (Reads.of BelieversClassForm.mk
    |>.required "starts_label" (.string f.startsLabel)
    |>.required "duration_label" (.string f.durationLabel)
    |>.defaulted "is_active" (.bool f.isActive) true).decoder (by decide)

theorem reopens (f : BelieversClassForm) (hasLeader : Bool) :
    Table.believersClasses.Reopens hasLeader f f.settled where
  read := f.settled.decodes
  row := by
    change f.settled.columns = f.columns
    simp only [columns, settled, Text.trimmed_trimmed, StartsLabel.normalized_normalized]

end BelieversClassForm

namespace Backend.Table

theorem reopens (t : Table) (hasLeader : Bool) {f : t.Form} (clean : t.formFaults hasLeader f = []) :
    ∃ again, t.Reopens hasLeader f again := by
  cases t with
  | events => exact ⟨_, EventForm.reopens hasLeader clean⟩
  | teams => exact ⟨_, TeamForm.reopens f hasLeader⟩
  | groups => exact ⟨_, GroupForm.reopens f hasLeader⟩
  | announcements => exact ⟨_, AnnouncementForm.reopens f hasLeader⟩
  | believersClasses => exact ⟨_, BelieversClassForm.reopens f hasLeader⟩

/-- A form without faults may be opened again for the row that was written for it: what is then sent is
read as a form, the form has no faults, and it is written as the same row. Texts are cleaned once and
for all. -/
theorem reopened_form_keeps_row :
    (∀ (t : Table) (hasLeader : Bool) (f : t.Form), t.formFaults hasLeader f = [] →
      ∃ again,
        Json.readString t.formDecoder (t.reopened (t.formColumns hasLeader f)).toText = .ok again ∧
        t.formFaults hasLeader again = [] ∧
        t.formColumns hasLeader again = t.formColumns hasLeader f) ∧
    (∀ s, Text.trimmed (Text.trimmed s) = Text.trimmed s) ∧
    (∀ s, filledIn? ((filledIn? s).getD "") = filledIn? s) ∧
    ∀ label, StartsLabel.normalized (StartsLabel.normalized label) = StartsLabel.normalized label := by
  refine ⟨?forms, Text.trimmed_trimmed, ?blanks, StartsLabel.normalized_normalized⟩
  case forms =>
    intro t hasLeader f clean
    obtain ⟨again, reopens⟩ := t.reopens hasLeader clean
    exact ⟨again, reopens.read.readText (by decide), reopens.clean clean, reopens.row⟩
  case blanks =>
    intro s
    rw [getD_filledIn?, filledIn?_trimmed]

/-- A class whose start is typed as a date, with white space around it. -/
def marchClass : BelieversClassForm := ⟨" 2025-03-02\n", "\u20036 weeks ", false⟩

theorem march_class_keeps_row :
    marchClass.faults = [] ∧
    ∃ again,
      Json.readString BelieversClassForm.decoder
        (believersClasses.reopened marchClass.columns).toText = .ok again ∧
      again.faults = [] ∧
      again.columns = [("starts_label", .str "02/03/2025"), ("duration_label", .str "6 weeks"),
        ("is_active", .bool false)] := by
  have clean : marchClass.faults = [] := by decide
  have row : marchClass.columns = [("starts_label", .str "02/03/2025"),
      ("duration_label", .str "6 weeks"), ("is_active", .bool false)] := by
    have starts : StartsLabel.normalized marchClass.startsLabel = "02/03/2025" := by decide
    have lasts : Text.trimmed marchClass.durationLabel = "6 weeks" := by decide
    rw [BelieversClassForm.columns, starts, lasts]
    rfl
  obtain ⟨again, read, right, same⟩ :=
    reopened_form_keeps_row.1 believersClasses true marchClass clean
  exact ⟨clean, again, read, right, same.trans row⟩

end Backend.Table
end ParishSite
