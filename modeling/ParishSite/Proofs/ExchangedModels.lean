import ParishSite.Content.Announcement
import ParishSite.Content.BelieversClass
import ParishSite.Content.Event
import ParishSite.Content.Group
import ParishSite.Content.Team
import ParishSite.Content.Video
import ParishSite.Proofs.DecodedRecords
import ParishSite.Proofs.TeamPlaces

/-! What the service exchanges with its visitors, its store and its own file reads back as it was
written. Each record is read along its own fields, in the order in which they are declared. -/

namespace ParishSite

open Json (Decodes Record ReadsBack)
open Json.Record (Reads)

theorem Video.decodes (v : Video) : Decodes 1 decoder v.toJson v :=
  (Reads.of Video.mk
    |>.required "id" (.string v.id)
    |>.required "title" (.string v.title)
    |>.required "description" (.string v.description)
    |>.required "published_at" (.string v.publishedAt)
    |>.required "thumbnail_url" (.string v.thumbnailUrl)
    |>.required "embed_url" (.string v.embedUrl)
    |>.required "video_url" (.string v.watchUrl)
    |>.given "duration" v.duration
    |>.given "view_count" v.viewCount).decoder (by decide)

theorem VideoPage.decodes (p : VideoPage) : Decodes 3 decoder p.toJson p :=
  (Reads.of VideoPage.mk
    |>.required "videos" (.list fun v _ => v.decodes)
    |>.given "next_page_token" p.nextPageToken).decoder (by decide)

theorem EventCategory.decodes (levels : Nat) (c : EventCategory) : Decodes levels decoder c.toJson c := by
  refine Decodes.variant ?_
  cases c <;> decide

/-- The fields of an event, wherever they stand. -/
theorem Event.reads (levels : Nat) (e : Event) : Reads levels e.members record e :=
  Reads.of Event.mk
    |>.required "id" (.rowId e.id)
    |>.required "title" (.string e.title)
    |>.optional "description" (.text? e.description)
    |>.required "category" (e.category.decodes levels)
    |>.optional "location" (.text? e.location)
    |>.required "start" (.instant e.start)
    |>.required "end" (.instant e.finish)
    |>.optional "image_url" (.text? e.imageUrl)

theorem Event.decodes (e : Event) : Decodes 1 decoder e.toJson e := (e.reads 0).decoder (by decide)

theorem Json.text?_whole (levels : Nat) (text : Option String) :
    Decodes levels .any (Json.text? text) (Json.text? text) := by
  cases text with
  | none => exact .any_null
  | some s => exact .any_str s

theorem Event.members_whole (levels : Nat) (e : Event) :
    ∀ member ∈ e.members, ∃ v, Decodes levels .any member.2 v := by
  simp only [members, List.forall_mem_cons, List.not_mem_nil, false_imp_iff, implies_true, and_true]
  exact ⟨⟨_, .any_str _⟩, ⟨_, .any_str _⟩, ⟨_, Json.text?_whole levels _⟩, ⟨_, .any_str _⟩,
    ⟨_, Json.text?_whole levels _⟩, ⟨_, .any_str _⟩, ⟨_, .any_str _⟩, ⟨_, Json.text?_whole levels _⟩⟩

theorem EventDetail.decodes (e : EventDetail) : Decodes 1 decoder e.toJson e :=
  (Reads.of (fun calendarUrl fileUrl event => EventDetail.mk event calendarUrl fileUrl)
    |>.required "google_calendar_url" (.string e.calendarUrl)
    |>.required "ics_url" (.string e.fileUrl)).decoderWith (e.event.reads 0) (by decide)
      (e.event.members_whole 0)

theorem TeamRow.decodes {t : TeamRow} (sorts : t.HasInt32) : Decodes 1 decoder t.toJson t :=
  (Reads.of TeamRow.mk
    |>.required "id" (.rowId t.id)
    |>.required "team_key" (.string t.teamKey)
    |>.required "group_name" (.string t.groupName)
    |>.optional "group_sort" (.int32? sorts.1)
    |>.optional "team_sort" (.int32? sorts.2)
    |>.required "name" (.string t.name)
    |>.defaulted "leader" (.text? t.leader) none
    |>.optional "description" (.text? t.description)
    |>.required "is_active" (.bool t.isActive)).decoder (by decide)

theorem TeamItem.decodes {t : TeamItem} (sorts : t.HasInt32) : Decodes 1 decoder t.toJson t :=
  (Reads.of TeamItem.mk
    |>.required "id" (.string t.id)
    |>.required "team_key" (.string t.teamKey)
    |>.required "group_name" (.string t.groupName)
    |>.required "group_sort" (.int32 sorts.1.1 sorts.1.2)
    |>.required "team_sort" (.int32 sorts.2.1 sorts.2.2)
    |>.required "name" (.string t.name)
    |>.required "leader" (.string t.leader)
    |>.required "description" (.string t.description)).decoder (by decide)

theorem TeamList.decodes {l : TeamList} (sorts : ∀ t ∈ l.teams, t.HasInt32) :
    Decodes 3 decoder l.toJson l :=
  (Reads.of TeamList.mk
    |>.required "teams" (.list fun t member => TeamItem.decodes (sorts t member))
    |>.required "group_options" (.list fun s _ => .string s)
    |>.required "has_leader_column" (.bool l.hasLeaderColumn)).decoder (by decide)

theorem Group.decodes (g : Group) : Decodes 1 decoder g.toJson g :=
  (Reads.of Group.mk
    |>.required "id" (.rowId g.id)
    |>.required "name" (.string g.name)
    |>.required "meeting_time" (.string g.meetingTime)
    |>.required "description" (.string g.description)).decoder (by decide)

theorem AnnouncementStatus.decodes (levels : Nat) (s : AnnouncementStatus) :
    Decodes levels decoder s.toJson s := by
  refine Decodes.variant ?_
  cases s <;> decide

theorem Announcement.decodes (a : Announcement) : Decodes 1 decoder a.toJson a :=
  (Reads.of Announcement.mk
    |>.required "id" (.rowId a.id)
    |>.required "title" (.string a.title)
    |>.required "content" (.string a.content)
    |>.required "status" (a.status.decodes 0)).decoder (by decide)

theorem BelieversClassRow.decodes (c : BelieversClassRow) : Decodes 1 decoder c.toJson c :=
  (Reads.of BelieversClassRow.mk
    |>.required "id" (.rowId c.id)
    |>.required "class_key" (.string c.classKey)
    |>.optional "starts_label" (.text? c.startsLabel)
    |>.optional "duration_label" (.text? c.durationLabel)
    |>.required "is_active" (.bool c.isActive)).decoder (by decide)

theorem BelieversClass.decodes (c : BelieversClass) : Decodes 1 decoder c.toJson c :=
  (Reads.of BelieversClass.mk
    |>.required "id" (.string c.id)
    |>.required "starts_label" (.string c.startsLabel)
    |>.required "duration_label" (.string c.durationLabel)).decoder (by decide)

/-- Every value that is exchanged is read back from the text that is written for it. The places of teams
are integers of 32 bits, as they are in all rows that were read from some text, and in their views. -/
theorem exchanged_models_read_back :
    (∀ v : Video, ReadsBack Video.decoder Video.toJson v) ∧
    (∀ p : VideoPage, ReadsBack VideoPage.decoder VideoPage.toJson p) ∧
    (∀ e : Event, ReadsBack Event.decoder Event.toJson e) ∧
    (∀ e : EventDetail, ReadsBack EventDetail.decoder EventDetail.toJson e) ∧
    (∀ t : TeamRow, t.HasInt32 → ReadsBack TeamRow.decoder TeamRow.toJson t) ∧
    (∀ t : TeamItem, t.HasInt32 → ReadsBack TeamItem.decoder TeamItem.toJson t) ∧
    (∀ l : TeamList, (∀ t ∈ l.teams, t.HasInt32) → ReadsBack TeamList.decoder TeamList.toJson l) ∧
    (∀ g : Group, ReadsBack Group.decoder Group.toJson g) ∧
    (∀ a : Announcement, ReadsBack Announcement.decoder Announcement.toJson a) ∧
    (∀ c : BelieversClassRow, ReadsBack BelieversClassRow.decoder BelieversClassRow.toJson c) ∧
    (∀ c : BelieversClass, ReadsBack BelieversClass.decoder BelieversClass.toJson c) ∧
    ∀ text rows, Json.read (.list TeamRow.decoder) text = .ok rows →
      ∀ t ∈ rows, t.HasInt32 ∧ (TeamItem.ofRow t).HasInt32 := by
  have flat : 1 ≤ 127 := by decide
  have nested : 3 ≤ 127 := by decide
  refine ⟨?video, ?page, ?event, ?detail, ?row, ?item, ?teams, ?group, ?announcement, ?entryRow, ?entry,
    ?places⟩
  case video => exact fun v => v.decodes.readsBack flat
  case page => exact fun p => p.decodes.readsBack nested
  case event => exact fun e => e.decodes.readsBack flat
  case detail => exact fun e => e.decodes.readsBack flat
  case row => exact fun _ sorts => (TeamRow.decodes sorts).readsBack flat
  case item => exact fun _ sorts => (TeamItem.decodes sorts).readsBack flat
  case teams => exact fun _ sorts => (TeamList.decodes sorts).readsBack nested
  case group => exact fun g => g.decodes.readsBack flat
  case announcement => exact fun a => a.decodes.readsBack flat
  case entryRow => exact fun c => c.decodes.readsBack flat
  case entry => exact fun c => c.decodes.readsBack flat
  case places =>
    intro text rows read t member
    have sorts := TeamRow.decoder_yields.list _ _ _ (Json.of_read read) t member
    exact ⟨sorts, TeamItem.ofRow_hasInt32 sorts⟩

/-- A team whose id looks like a number, in the last possible place of its group. -/
def lastTeam : TeamRow where
  id := "007"
  teamKey := "ushers"
  groupName := "Frontline \"A\" \\ B\n"
  groupSort := some (-2147483648)
  teamSort := some 2147483647
  name := "Ushers ✝ 𝄞"
  leader := none
  description := some ""
  isActive := true

theorem last_team_reads_back :
    (lastTeam.HasInt32 ∧ ReadsBack TeamRow.decoder TeamRow.toJson lastTeam) ∧
    ((TeamItem.ofRow lastTeam).HasInt32 ∧
      ReadsBack TeamItem.decoder TeamItem.toJson (TeamItem.ofRow lastTeam)) ∧
    ReadsBack TeamList.decoder TeamList.toJson ⟨[TeamItem.ofRow lastTeam], [lastTeam.groupName], true⟩ := by
  have row : lastTeam.HasInt32 := by
    constructor <;> rintro _ ⟨⟩ <;> exact ⟨by decide, by decide⟩
  have item : (TeamItem.ofRow lastTeam).HasInt32 :=
    ⟨⟨by decide, by decide⟩, ⟨by decide, by decide⟩⟩
  obtain ⟨-, -, -, -, rows, items, teams, -⟩ := exchanged_models_read_back
  refine ⟨⟨row, rows lastTeam row⟩, ⟨item, items _ item⟩, teams _ ?_⟩
  intro t member
  rwa [List.mem_singleton.mp member]

end ParishSite
