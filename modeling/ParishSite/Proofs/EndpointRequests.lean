import ParishSite.Proofs.ChannelCalls
import ParishSite.Proofs.RequestContract

/-! Every endpoint keeps to its contract, from any memory and whatever the store and the channel
answer. -/

namespace ParishSite.Service

open Backend (Access Errand Query Table)
open Web (Outgoing Request Response)

variable {site : Site} {r : Request} {id : List Char} {e : Endpoint} {m : Memory} {past : History}

/-- An endpoint keeps to its contract. -/
def Behaves (site : Site) (r : Request) (id : List Char) (e : Endpoint) (m : Memory)
    (past : History) (answer : Act Response) : Prop :=
  Holds (Sends site r id e) (fun _ _ _ => True) answer m past

private theorem visit_holds {q : Query} {d : Json.Decoder α} {t : Table}
    (visitor : e.isAdmin = false) (same : q.table = t.name) :
    Asks (Sends site r id e) (fun _ _ => True) (site.store.select q d none) past :=
  Backend.Client.select_asks (may_of_due fun _ _ => .visit visitor same)

theorem channel_open (feed : e.isFeed = true) : site.feed.IsOpen (Sends site r id e) :=
  fun _ _ _ => .channel feed

theorem videos_behaves (feed : e.isFeed = true) : Behaves site r id e m past (videos site r) := by
  refine (Act.reading_holds _).bind ?_
  intro _ _ query _ ⟨rfl, _⟩
  refine (Act.checking_holds _).bind ?_
  intro _ later wanted _ ⟨rfl, _⟩
  split
  · refine (Act.feed_holds (Feed.Client.search_holds (channel_open feed) _ _)).bind ?_
    exact fun _ _ _ _ _ => Holds.pure trivial
  · refine (Act.feed_holds (Feed.Client.latest_holds (channel_open feed) _)).bind ?_
    exact fun _ _ _ _ _ => Holds.pure trivial

theorem videoSearch_behaves (feed : e.isFeed = true) :
    Behaves site r id e m past (videoSearch site r) := by
  refine (Act.reading_holds _).bind ?_
  intro _ _ query _ ⟨rfl, _⟩
  refine (Act.checking_holds _).bind ?_
  intro _ later wanted _ ⟨rfl, _⟩
  split
  · refine (Act.feed_holds (Feed.Client.search_holds (channel_open feed) _ _)).bind ?_
    exact fun _ _ _ _ _ => Holds.pure trivial
  · exact Act.fail_holds _

theorem liveVideo_behaves (feed : e.isFeed = true) :
    Behaves site r id e m past (liveVideo site) := by
  refine (Act.feed_holds (Feed.run_holds (Feed.Client.liveVideo_asks (channel_open feed)))).bind ?_
  intro _ _ found _ _
  cases found <;> exact Holds.pure trivial

private theorem wantedCategory_holds :
    Holds (Sends site r id e) (fun kept _ _ => m = kept) (wantedCategory r) m past := by
  refine (Act.reading_holds _).bind ?_
  intro _ _ category _ ⟨rfl, _⟩
  split
  · exact Holds.pure rfl
  · split
    · exact Holds.pure rfl
    · exact Act.fail_holds _

private theorem events_asks {category : Option EventCategory} (visitor : e.isAdmin = false) :
    Asks (Sends site r id e) (fun _ _ => True) (site.store.events category none) past := by
  refine visit_holds (t := .events) visitor ?_
  cases category <;> rfl

theorem events_behaves (visitor : e.isAdmin = false) : Behaves site r id e m past (events site r) := by
  refine wantedCategory_holds.bind ?_
  intro _ _ _ _ _
  exact (Act.store_holds (events_asks visitor)).bind fun _ _ _ _ _ => Holds.pure trivial

theorem eventsFile_behaves (visitor : e.isAdmin = false) :
    Behaves site r id e m past (eventsFile site r) := by
  refine wantedCategory_holds.bind ?_
  intro _ _ _ _ _
  refine (Act.store_holds (events_asks visitor)).bind ?_
  intro _ _ found _ _
  split
  · exact Act.fail_holds _
  · exact Act.now_holds.bind fun _ _ _ _ _ => Holds.pure trivial

private theorem foundEvent_holds (visitor : e.isAdmin = false) :
    Holds (Sends site r id e) (fun _ _ _ => True) (foundEvent site id) m past := by
  refine (Act.reading_holds _).bind ?_
  intro _ later name _ ⟨rfl, _⟩
  have asked : Asks (Sends site r id e) (fun _ _ => True) (site.store.event? name) later :=
    (visit_holds (t := .events) visitor rfl).bind fun _ _ _ _ => Asks.pure trivial
  refine (Act.store_holds asked).bind ?_
  intro _ _ found _ _
  cases found with
  | some e => exact Holds.pure trivial
  | none => exact Act.fail_holds _

theorem event_behaves (visitor : e.isAdmin = false) : Behaves site r id e m past (event site id) :=
  (foundEvent_holds visitor).bind fun _ _ _ _ _ => Holds.pure trivial

theorem eventFile_behaves (visitor : e.isAdmin = false) :
    Behaves site r id e m past (eventFile site id) := by
  refine (foundEvent_holds visitor).bind ?_
  intro _ _ _ _ _
  exact Act.now_holds.bind fun _ _ _ _ _ => Holds.pure trivial

theorem teams_behaves (visitor : e.isAdmin = false) : Behaves site r id e m past (teams site) := by
  have asked : Asks (Sends site r id e) (fun _ _ => True)
      (Backend.Roster.publicTeams site.store) past :=
    (visit_holds (t := .teams) visitor rfl).bind fun _ _ _ _ => Asks.pure trivial
  exact (Act.store_holds asked).bind fun _ _ _ _ _ => Holds.pure trivial

theorem groups_behaves (visitor : e.isAdmin = false) : Behaves site r id e m past (groups site) :=
  (Act.store_holds (visit_holds (t := .groups) visitor rfl)).bind fun _ _ _ _ _ => Holds.pure trivial

theorem announcements_behaves (visitor : e.isAdmin = false) :
    Behaves site r id e m past (announcements site) :=
  (Act.store_holds (visit_holds (t := .announcements) visitor rfl)).bind
    fun _ _ _ _ _ => Holds.pure trivial

theorem believersClass_behaves (visitor : e.isAdmin = false) :
    Behaves site r id e m past (believersClass site) := by
  have asked : Asks (Sends site r id e) (fun _ _ => True) site.store.activeClass? past :=
    (visit_holds (t := .believersClasses) visitor rfl).bind fun _ _ _ _ => Asks.pure trivial
  refine (Act.store_holds asked).bind ?_
  intro _ _ found _ _
  cases found <;> exact Holds.pure trivial

private theorem account_holds {errand : Errand} {what : String} {d : Json.Decoder α}
    (admin : e.isAdmin = true) (area : errand.path = ["auth", "v1", what])
    (method : errand.method = .get ∨ errand.method = .post) :
    Asks (Sends site r id e) (fun _ _ => True) (site.store.fetch errand d) past :=
  (Backend.Client.fetch_asks (may_of_due fun _ _ => .account admin area method)).forget

theorem login_behaves (admin : e.isAdmin = true) : Behaves site r id e m past (login site r) := by
  refine (Act.reading_holds _).bind ?_
  intro _ _ asked _ ⟨rfl, _⟩
  refine (Act.outcome_holds (account_holds admin rfl (.inr rfl))).bind ?_
  intro _ _ outcome _ _
  split
  · exact Holds.pure trivial
  · split
    · split <;> exact Act.fail_holds _
    · exact Act.fail_holds _

theorem logout_behaves (admin : e.isAdmin = true) : Behaves site r id e m past (logout site r) := by
  refine (Act.reading_holds _).bind ?_
  intro _ _ token _ ⟨rfl, _⟩
  cases token with
  | none => exact Act.fail_holds _
  | some token =>
    exact (Act.store_holds (signOut_asks admin)).bind fun _ _ _ _ _ => Holds.pure trivial

theorem session_behaves (admin : e.isAdmin = true) :
    Behaves site r id e m past (session site r) := by
  refine (Act.reading_holds _).bind ?_
  intro _ later token _ ⟨rfl, _⟩
  have resolved : Holds (ε := Refusal) (Sends site r id e)
      (fun _ last found => found.IsKnown site.store token last)
      (ExceptT.lift (StateT.lift (SignIn.resolve site.store token))) m later :=
    Holds.lift (resolve_keeps admin)
  exact resolved.bind fun _ _ _ _ _ => Holds.pure trivial

theorem recoverPassword_behaves (admin : e.isAdmin = true) :
    Behaves site r id e m past (recoverPassword site r) := by
  refine (Act.reading_holds _).bind ?_
  intro _ later email _ ⟨rfl, _⟩
  dsimp only
  split
  · exact Act.fail_holds _
  · have asked : Asks (Sends site r id e) (fun _ _ => True)
        (site.store.recoverPassword (Text.trimmed email) site.settings.resetRedirect) later :=
      (Backend.Client.send_asks (may_of_due fun _ _ => .account admin rfl (.inr rfl))).bind
        fun _ _ _ _ => Asks.pure trivial
    exact (Act.store_holds asked).bind fun _ _ _ _ _ => Holds.pure trivial

/-- The password is only changed after the gate, which lets pass who must change it. -/
theorem changePassword_behaves :
    Behaves site r id .changePassword m past (changePassword site r) := by
  refine (Act.reading_holds _).bind ?_
  intro _ _ token _ ⟨rfl, bearer⟩
  refine (Act.reading_holds _).bind ?_
  intro _ _ asked _ ⟨rfl, _⟩
  refine (gate_holds true rfl bearer).bind ?_
  intro _ later who _ ⟨rfl, passed⟩
  dsimp only
  split
  · exact Act.fail_bind_holds _ _
  refine Act.now_holds.bind ?_
  intro _ last now growth rfl
  refine (Act.outcome_holds (Backend.Client.fetch_asks ?_).forget).bind ?_
  · exact may_after passed growth fun _ passed => .password passed
  intro _ _ outcome _ _
  split
  · exact Holds.pure trivial
  · split <;> exact Act.fail_holds _

theorem dashboard_behaves (admin : e.isAdmin = true) :
    Behaves site r id e m past (dashboard site r) := by
  refine (Act.reading_holds _).bind ?_
  intro _ _ token _ ⟨rfl, bearer⟩
  refine (gate_holds false admin bearer).bind ?_
  exact fun _ _ _ _ _ => Holds.pure trivial

theorem list_behaves {t : Table} (admin : e.isAdmin = true) :
    Behaves site r id e m past (list site t r) := by
  refine (Act.reading_holds _).bind ?_
  intro _ _ token _ ⟨rfl, bearer⟩
  refine (gate_holds false admin bearer).bind ?_
  intro _ later who _ ⟨rfl, passed⟩
  have read {β : Type} {q : Query} {d : Json.Decoder β} {last : History} (growth : later <+: last)
      (same : q.table = t.name) :
      Asks (Sends site r id e) (fun _ _ => True) (site.store.select q d (some who.token)) last :=
    Backend.Client.select_asks (may_after passed growth fun _ passed => .read admin same passed)
  cases t with
  | teams =>
    have listed : Holds (Sends site r id e) (fun _ _ _ => True)
        (Backend.Roster.list site.store who.token) m.hasLeaderColumn later := by
      have answered (rows : List TeamRow) (flag : Bool) (last : History) :
          Holds (ε := Backend.Fault) (Sends site r id e) (fun _ _ _ => True)
            (do return (⟨rows.map TeamItem.ofRow, groupOptions (rows.map TeamItem.ofRow), ← get⟩ :
              TeamList)) flag last := Holds.get_bind (Holds.pure trivial)
      refine (Backend.Roster.outcome_holds (read List.prefix_rfl rfl)).bind ?_
      intro _ _ outcome growth rfl
      dsimp only
      split
      · exact Holds.set_bind (answered _ _ _)
      · split
        · apply Holds.set_bind
          refine (Backend.Roster.run_holds (read growth rfl)).bind ?_
          exact fun _ _ rows _ _ => answered rows _ _
        · exact Holds.throw _
    exact (Act.roster_holds listed).bind fun _ _ _ _ _ => Holds.pure trivial
  | events | groups | announcements | believersClasses =>
    refine (Act.store_holds (read List.prefix_rfl rfl)).bind ?_
    exact fun _ _ _ _ _ => Holds.pure trivial

private theorem insert_holds {t : Table} {row : List (String × Json)} {d : Json.Decoder α}
    {token : String} {later : History} (accepts : t.Accepts row)
    (passed : ∃ a, site.store = some a ∧ Passed a r false token past) (growth : past <+: later) :
    Asks (Sends site r id (.create t)) (fun _ _ => True) (site.store.insert t.name row d token)
      later :=
  Backend.Client.insert_asks (may_after passed growth fun _ passed => .add accepts passed)

private theorem change_holds {t : Table} {name : String} {row : List (String × Json)}
    {d : Json.Decoder α} {token : String} {later : History}
    (named : Request.pathText "id" id = .ok name) (accepts : t.Accepts row)
    (passed : ∃ a, site.store = some a ∧ Passed a r false token past) (growth : past <+: later) :
    Asks (Sends site r id (.update t)) (fun _ _ => True)
      (site.store.update t.name name row d token) later :=
  Backend.Client.update_asks (may_after passed growth fun _ passed => .change named accepts passed)

/-- What a form leads to does not depend on how the answer is written. -/
private theorem answered {act : Act α} (holds : Holds (Sends site r id e) (fun _ _ _ => True) act m past)
    (answer : α → Response) : Behaves site r id e m past (do return answer (← act)) :=
  holds.bind fun _ _ _ _ _ => Holds.pure trivial

/-- A row is added for a form that was checked as its table asks. -/
private theorem create_form_holds {t : Table} {token : Option String} {d : Json.Decoder α}
    {faults : α → List FieldFault} {columns : α → List (String × Json)} {row : Json.Decoder β}
    (bearer : r.bearer = .ok token)
    (accepted : ∀ {form}, faults form = [] → t.Accepts (columns form)) :
    Holds (Sends site r id (.create t)) (fun _ _ _ => True)
      (submit site r token d (fun _ form => faults form) fun form token =>
        Act.store (site.store.insert t.name (columns form) row token)) m past := by
  refine submit_holds rfl bearer ?_
  intro form token later clean passed
  exact (Act.store_holds (insert_holds (accepted clean) passed List.prefix_rfl)).forget

private theorem create_team_holds {form : TeamForm} {token : String}
    (clean : form.faults m.hasLeaderColumn = [])
    (passed : ∃ a, site.store = some a ∧ Passed a r false token past) :
    Holds (Sends site r id (.create .teams)) (fun _ _ _ => True)
      (Backend.Roster.create site.store form token) m.hasLeaderColumn past := by
  have sorts {β : Type} {q : Query} {d : Json.Decoder β} (same : q.table = Table.teams.name) :
      Asks (Sends site r id (.create .teams)) (fun _ _ => True)
        (site.store.select q d (some token)) past :=
    Backend.Client.select_asks (may_after passed List.prefix_rfl fun _ passed => .read rfl same passed)
  refine (Backend.Roster.run_holds (sorts rfl)).bind ?_
  intro _ middle taken growth rfl
  have drawn : Holds (ε := Backend.Fault) (Sends site r id (.create .teams))
      (fun kept _ _ => m.hasLeaderColumn = kept) (ExceptT.lift (StateT.lift Dialogue.keySuffix))
      m.hasLeaderColumn middle := Holds.lift fun _ => rfl
  refine drawn.bind ?_
  intro _ last suffix more rfl
  refine (Backend.Roster.write_holds ?_).bind fun _ _ _ _ _ => Holds.pure trivial
  intro final withLeader further known
  have accepts := TeamForm.new_accepted (form.clean_without clean known) suffix (nextTeamSort taken)
  exact insert_holds accepts passed (growth.trans (more.trans further))

private theorem createClass_asks {form : BelieversClassForm} {token : String}
    (clean : form.faults = [])
    (passed : ∃ a, site.store = some a ∧ Passed a r false token past) :
    Asks (Sends site r id (.create .believersClasses)) (fun _ _ => True)
      (site.store.createClass form token) past := by
  have drawn : Asks (ε := Backend.Fault) (Sends site r id (.create .believersClasses))
      (fun _ _ => True) (ExceptT.lift Dialogue.keySuffix) past := Asks.lift fun _ => trivial
  refine drawn.bind ?_
  intro last suffix growth _
  exact insert_holds (BelieversClassForm.new_accepted clean suffix) passed growth

theorem create_behaves {t : Table} : Behaves site r id (.create t) m past (create site t r) := by
  refine (Act.reading_holds _).bind ?_
  intro _ _ token _ ⟨rfl, bearer⟩
  cases t with
  | events => exact answered (create_form_holds bearer EventForm.accepted) _
  | teams =>
    refine answered (submit_holds rfl bearer ?_) _
    intro form token later clean passed
    exact Act.roster_holds (create_team_holds clean passed)
  | groups => exact answered (create_form_holds bearer GroupForm.accepted) _
  | announcements => exact answered (create_form_holds bearer AnnouncementForm.accepted) _
  | believersClasses =>
    refine answered (submit_holds rfl bearer ?_) _
    intro form token later clean passed
    exact (Act.store_holds (createClass_asks clean passed)).forget

/-- A row is changed for a form that was checked as its table asks. -/
private theorem update_form_holds {t : Table} {token : Option String} {name : String}
    {d : Json.Decoder α} {faults : α → List FieldFault} {columns : α → List (String × Json)}
    {row : Json.Decoder β} (bearer : r.bearer = .ok token)
    (named : Request.pathText "id" id = .ok name)
    (accepted : ∀ {form}, faults form = [] → t.Accepts (columns form)) :
    Holds (Sends site r id (.update t)) (fun _ _ _ => True)
      (submit site r token d (fun _ form => faults form) fun form token =>
        Act.store (site.store.update t.name name (columns form) row token)) m past := by
  refine submit_holds rfl bearer ?_
  intro form token later clean passed
  exact (Act.store_holds (change_holds named (accepted clean) passed List.prefix_rfl)).forget

theorem update_behaves {t : Table} : Behaves site r id (.update t) m past (update site t id r) := by
  refine (Act.reading_holds _).bind ?_
  intro _ _ token _ ⟨rfl, bearer⟩
  refine (Act.reading_holds _).bind ?_
  intro _ _ name _ ⟨rfl, named⟩
  cases t with
  | events =>
    refine (update_form_holds bearer named EventForm.accepted).bind ?_
    rintro _ _ (none | row) _ _
    exacts [Act.fail_holds _, Holds.pure trivial]
  | teams =>
    refine Holds.bind (submit_holds rfl bearer ?_) ?_
    · intro form token later clean passed
      apply Act.roster_holds
      refine (Backend.Roster.write_holds ?_).bind fun _ _ _ _ _ => Holds.pure trivial
      intro last withLeader growth known
      exact change_holds named (TeamForm.accepted (form.clean_without clean known)) passed growth
    · rintro _ _ (none | row) _ _
      exacts [Act.fail_holds _, Holds.pure trivial]
  | groups =>
    refine (update_form_holds bearer named GroupForm.accepted).bind ?_
    rintro _ _ (none | row) _ _
    exacts [Act.fail_holds _, Holds.pure trivial]
  | announcements =>
    refine (update_form_holds bearer named AnnouncementForm.accepted).bind ?_
    rintro _ _ (none | row) _ _
    exacts [Act.fail_holds _, Holds.pure trivial]
  | believersClasses =>
    refine (update_form_holds bearer named BelieversClassForm.accepted).bind ?_
    rintro _ _ (none | row) _ _
    exacts [Act.fail_holds _, Holds.pure trivial]

theorem remove_behaves {t : Table} : Behaves site r id (.remove t) m past (remove site t id r) := by
  refine (Act.reading_holds _).bind ?_
  intro _ _ token _ ⟨rfl, bearer⟩
  refine (Act.reading_holds _).bind ?_
  intro _ _ name _ ⟨rfl, named⟩
  refine (gate_holds false rfl bearer).bind ?_
  intro _ later who _ ⟨rfl, passed⟩
  have asked : Asks (Sends site r id (.remove t)) (fun _ _ => True)
      (site.store.remove t name who.token) later :=
    Backend.Client.delete_asks
      (may_after passed List.prefix_rfl fun _ passed => .remove named passed)
  refine (Act.store_holds asked).bind ?_
  intro _ _ found _ _
  split
  · exact Holds.pure trivial
  · exact Act.fail_holds _

theorem act_behaves (e : Endpoint) : Behaves site r id e m past (act site id r e) := by
  cases e with
  | root => exact Holds.pure trivial
  | live => exact Holds.pure trivial
  | ready => exact Holds.pure trivial
  | videos => exact videos_behaves rfl
  | videoSearch => exact videoSearch_behaves rfl
  | liveVideo => exact liveVideo_behaves rfl
  | events => exact events_behaves rfl
  | eventsFile => exact eventsFile_behaves rfl
  | event => exact event_behaves rfl
  | eventFile => exact eventFile_behaves rfl
  | teams => exact teams_behaves rfl
  | groups => exact groups_behaves rfl
  | announcements => exact announcements_behaves rfl
  | believersClass => exact believersClass_behaves rfl
  | dashboard => exact dashboard_behaves rfl
  | login => exact login_behaves rfl
  | logout => exact logout_behaves rfl
  | session => exact session_behaves rfl
  | changePassword => exact changePassword_behaves
  | recoverPassword => exact recoverPassword_behaves rfl
  | list t => exact list_behaves rfl
  | create t => exact create_behaves
  | update t => exact update_behaves
  | remove t => exact remove_behaves

/-- The endpoint that a request reaches, and the part of its path that stands for an id. -/
def Routed (r : Request) (e : Endpoint) (id : List Char) : Prop :=
  r.method ≠ "OPTIONS" ∧
    ∃ route, findRoute? r.path = some (route, id) ∧ route.action? r.method = some e

/-- A request that the handling of another request may send, after the exchanges so far. -/
def Permitted (site : Site) (r : Request) (past : History) (q : Outgoing) : Prop :=
  ∃ e id, Routed r e id ∧ Sends site r id e past q

/-- Handling a request sends what the endpoint of the request may send, and nothing if there is none. -/
theorem handle_keeps (site : Site) (m : Memory) (r : Request) (past : History) :
    (handle site m r).Keeps (Permitted site r) (fun _ _ => True) past := by
  unfold handle
  dsimp only
  split
  · exact trivial
  split
  · exact trivial
  next asks =>
  split
  · exact trivial
  next route id found =>
  split
  · exact trivial
  next e action =>
  have behaves : Behaves site r id e m past (act site id r e) := act_behaves e
  have acts : ((act site id r e).run.run m).Keeps (Permitted site r) (fun _ _ => True) past :=
    Dialogue.Keeps.weaken behaves
      (fun past request sends => ⟨e, id, ⟨asks, route, found, action⟩, sends⟩) fun _ _ _ => trivial
  have responds : (respond site m id r e).Keeps (Permitted site r) (fun _ _ => True) past := by
    refine Dialogue.Keeps.bind acts ?_
    intro later outcome _
    obtain ⟨result, kept⟩ := outcome
    cases result <;> exact trivial
  exact Dialogue.Keeps.bind responds fun _ _ _ => trivial

/-- Every request that goes out while a request is handled is one that its endpoint permits after
what the same handling has exchanged before. -/
theorem handle_sends (site : Site) (m : Memory) (r : Request) (s : Surroundings)
    (before : Transcript) :
    ∃ new, ((handle site m r).run s before).2.exchanges = before.exchanges ++ new ∧
      ∀ earlier q reply later, new = earlier ++ (q, reply) :: later →
        Permitted site r earlier q ∧ reply = s.reply (before.exchanges ++ earlier) q := by
  obtain ⟨new, exchanges, -, sent⟩ := (handle_keeps site m r []).run s before
  exact ⟨new, exchanges, sent⟩

end ParishSite.Service
