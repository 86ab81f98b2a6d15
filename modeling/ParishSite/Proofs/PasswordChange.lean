import ParishSite.Proofs.DecodedRecords
import ParishSite.Proofs.GateOutcome
import ParishSite.Proofs.RecordMembers
import ParishSite.Proofs.RoutedPaths

/-! The change of a password. The store is told of it in one request, which sets the password and
lifts the block at once, or it is told nothing. All else that is known of the person is told again as
it was, and whoever is known by what was told passes the gate everywhere. -/

namespace ParishSite

open Web (Outgoing Reply Request Response)

namespace Json

theorem find?_bind (key other : String) (value : Json) (members : List (String × Json)) :
    find? key (bind other value members) =
      if other = key then some value else find? key members := by
  induction members with
  | nil => rfl
  | cons member members ih =>
    obtain ⟨k, v⟩ := member
    by_cases here : k = other
    · rw [bind, if_pos here, find?, find?, here]
      split <;> rfl
    · rw [bind, if_neg here, find?, find?, ih]
      by_cases found : k = key
      · have away : other ≠ key := fun same => here (found.trans same.symm)
        rw [if_pos found, if_pos found, if_neg away]
      · rw [if_neg found, if_neg found]

theorem mem_keys_bind {key other : String} {value : Json} {members : List (String × Json)} :
    key ∈ keys (bind other value members) ↔ key = other ∨ key ∈ keys members := by
  induction members with
  | nil => simp [bind, keys]
  | cons member members ih =>
    obtain ⟨k, v⟩ := member
    by_cases here : k = other
    · simp [bind, here, keys]
    · rw [bind, if_neg here]
      change key ∈ k :: keys (bind other value members) ↔ key = other ∨ key ∈ k :: keys members
      rw [List.mem_cons, List.mem_cons, ih]
      exact or_left_comm

theorem keys_bind_nodup {members : List (String × Json)} (once : (keys members).Nodup) (key : String)
    (value : Json) : (keys (bind key value members)).Nodup := by
  induction members with
  | nil => simp [keys, bind]
  | cons member members ih =>
    obtain ⟨k, v⟩ := member
    obtain ⟨new, once⟩ := List.nodup_cons.mp once
    by_cases here : k = key
    · rw [bind, if_pos here]
      exact List.nodup_cons.mpr ⟨new, once⟩
    · rw [bind, if_neg here]
      refine List.nodup_cons.mpr ⟨fun inside => ?_, ih once⟩
      exact (mem_keys_bind.mp inside).elim here new

theorem keys_unique_nodup (members : List (String × Json)) : (keys (unique members)).Nodup := by
  unfold unique
  refine List.foldlRecOn (motive := fun known => (keys known).Nodup) members _ List.nodup_nil ?_
  intro known once member _
  exact keys_bind_nodup once member.1 member.2

end Json

theorem User.metadata_nodup {text : List Text.Utf8.Symbol} {user : User}
    (read : Json.read User.decoder text = .ok user) : (Json.keys user.metadata).Nodup := by
  obtain ⟨inner, found, built⟩ := Json.Record.of_decoder (Json.of_read read)
  obtain ⟨addressed, metadata, first, rfl, known⟩ := Json.Record.of_extended built
  obtain ⟨identified, email, second, rfl, -⟩ := Json.Record.of_extended first
  obtain ⟨named, id, start, rfl, -⟩ := Json.Record.of_extended second
  cases start
  rcases known with ⟨value, -, read⟩ | ⟨-, empty⟩
  · unfold Json.Decoder.members at read
    split at read
    · obtain ⟨inner, -, rest⟩ := ok_of_bind read
      obtain ⟨members, -, last⟩ := ok_of_bind rest
      cases last
      exact Json.keys_unique_nodup members
    · cases read
  · cases empty
    exact List.nodup_nil

/-- What is told of a person whose password was changed: that it need not be changed and when it was,
and all else that was known before. -/
structure Lifts (metadata : List (String × Json)) (now : Time.Instant) (data : List (String × Json)) :
    Prop where
  lifted : Json.find? "must_change_password" data = some (.bool false)
  dated : Json.find? "password_changed_at" data = some (.str (Time.Rfc3339.writeOffset now))
  kept : ∀ key, key ≠ "must_change_password" → key ≠ "password_changed_at" →
    Json.find? key data = Json.find? key metadata
  once : (Json.keys data).Nodup

theorem passwordChanged_lifts {metadata : List (String × Json)} (once : (Json.keys metadata).Nodup)
    (now : Time.Instant) : Lifts metadata now (passwordChanged metadata now) where
  lifted := by
    rw [passwordChanged, Json.find?_bind, if_neg (by decide), Json.find?_bind, if_pos rfl]
  dated := by
    rw [passwordChanged, Json.find?_bind, if_pos rfl]
  kept key notFlag notDate := by
    rw [passwordChanged, Json.find?_bind, if_neg notDate.symm, Json.find?_bind, if_neg notFlag.symm]
  once := Json.keys_bind_nodup (Json.keys_bind_nodup once _ _) _ _

theorem Lifts.settled {metadata data known : List (String × Json)} {now : Time.Instant}
    (lifts : Lifts metadata now data) (same : ∀ key, Json.find? key known = Json.find? key data) :
    ¬ PasswordPending known := by
  rw [PasswordPending, same, lifts.lifted]
  simp

def Service.NewPassword.Fits (asked : NewPassword) : Prop :=
  8 ≤ asked.password.length ∧ asked.password = asked.confirmed

theorem passwordFault?_eq_none_iff {asked : Service.NewPassword} :
    passwordFault? asked.password asked.confirmed = none ↔ asked.Fits := by
  unfold passwordFault? Service.NewPassword.Fits
  split
  · next short => simp [short]
  · next long =>
    split
    · next differ => simp [differ]
    · next same => simp_all

namespace Backend

def Errand.renewing (token password : String) (data : List (String × Json)) : Errand :=
  ⟨.put, ["auth", "v1", "user"], [], some token, false,
    some (.obj [("password", .str password), ("data", .obj data)])⟩

theorem Client.changePassword_puts {a : Access} (token password : String)
    (data : List (String × Json)) :
    Puts (a.outgoing (.renewing token password data)) (outcomeOf User.decoder)
      (changePassword (some a) token password data) :=
  fetch_eq a (.renewing token password data) User.decoder

end Backend

namespace Service

open Backend (Access Client Errand Names)

variable {s : Surroundings} {before after : Transcript} {m : Memory} {site : Site} {r : Request}
  {token : Option String} {asked : NewPassword} {admin : Admin} {mayChangePassword : Bool}

/-- Somebody need not change the password, and passes the gate of every page whenever the store gives
the name. -/
structure PassesEverywhere (c : Client) (user : User) : Prop where
  settled : ParishSite.mustChangePassword user.metadata = false
  passes : ∀ (a : Access) (e : Endpoint) (token : String) (m : Memory) (s : Surroundings)
    (before : Transcript), c = some a → (a.outgoing (.checking token)).isSendable = true →
    Names (s.reply before.exchanges (a.outgoing (.checking token))) user →
    ((gate c (some token) e.mayChangePassword).run m s before).1.1 = .ok ⟨token, user⟩

theorem passesEverywhere {c : Client} {user : User} (settled : ¬ PasswordPending user.metadata) :
    PassesEverywhere c user where
  settled := by
    rw [← Bool.not_eq_true, mustChangePassword_iff]
    exact settled
  passes a e token m s before store sendable names := gate_passes store sendable names (.inr settled)

theorem run_changePassword_refused {why : Refusal} (bearer : r.bearer = .ok token)
    (readable : r.readBody NewPassword.decoder = .ok asked)
    (refused : (gate site.store token true).run m s before = ((.error why, m), after)) :
    (changePassword site r).run m s before = ((.error why, m), after) := by
  refine (Act.run_bind_ok (Act.run_reading bearer)).trans ?_
  refine (Act.run_bind_ok (Act.run_reading readable)).trans ?_
  exact Act.run_bind_error refused

theorem run_changePassword_unfit {fault : PasswordFault} (bearer : r.bearer = .ok token)
    (readable : r.readBody NewPassword.decoder = .ok asked)
    (passed : (gate site.store token true).run m s before = ((.ok admin, m), after))
    (unfit : passwordFault? asked.password asked.confirmed = some fault) :
    (changePassword site r).run m s before =
      ((.error (.failed (.badRequest fault.message)), m), after) := by
  refine (Act.run_bind_ok (Act.run_reading bearer)).trans ?_
  refine (Act.run_bind_ok (Act.run_reading readable)).trans ?_
  refine (Act.run_bind_ok passed).trans ?_
  rw [unfit]
  rfl

/-- A form that is fit is told to the store, and a refusal of the store with 400 or 422 is told in its
words. -/
theorem run_changePassword_fit {a : Access} (store : site.store = some a)
    (bearer : r.bearer = .ok token) (readable : r.readBody NewPassword.decoder = .ok asked)
    (passed : (gate site.store token true).run m s before = ((.ok admin, m), after))
    (sendable : (a.outgoing (.checking admin.token)).isSendable = true) (fits : asked.Fits) :
    let data := passwordChanged admin.user.metadata (s.clock after.looks)
    let change := a.outgoing (.renewing admin.token asked.password data)
    let reply := s.reply after.exchanges change
    ∃ result, (changePassword site r).run m s before =
        ((result, m), after.looked.exchanged [(change, reply)]) ∧
      ∀ status body, reply = .answered status body → status = 400 ∨ status = 422 →
        result = .error (.failed (.badRequest ((Backend.Refusal.ofBody body).faultMessage status))) := by
  intro data change reply
  have sent : change.isSendable = true :=
    (a.outgoing_sendable (.checking admin.token) (.renewing admin.token _ _) rfl).trans sendable
  have told : runCall s after.looked (Client.changePassword (some a) admin.token asked.password data) =
      (Client.outcomeOf User.decoder reply, after.looked.exchanged [(change, reply)]) :=
    (Client.changePassword_puts admin.token asked.password data).run_sent sent s after.looked
  have timed : Act.now.run m s after = ((.ok (s.clock after.looks), m), after.looked) := Act.run_lift _
  have held : (Act.outcome (Client.changePassword (some a) admin.token asked.password data)).run m s
      after.looked = _ := Act.run_outcome _
  rw [told, ← store] at held
  have reached : (changePassword site r).run m s before = _ :=
    (Act.run_bind_ok (Act.run_reading bearer)).trans
      ((Act.run_bind_ok (Act.run_reading readable)).trans (Act.run_bind_ok passed))
  rw [passwordFault?_eq_none_iff.mpr fits] at reached
  have ended := reached.trans ((Act.run_bind_ok timed).trans (Act.run_bind_ok held))
  by_cases expected : ∃ status body, reply = .answered status body ∧ (status = 400 ∨ status = 422)
  · obtain ⟨status, body, said, expected⟩ := expected
    have outcome : Client.outcomeOf User.decoder reply =
        .error ((Backend.Refusal.ofBody body).toFault status) := by
      rw [said]
      rcases expected with rfl | rfl
      all_goals rfl
    rw [outcome] at ended
    refine ⟨.error (.failed (.badRequest ((Backend.Refusal.ofBody body).faultMessage status))), ?_, ?_⟩
    · rcases expected with rfl | rfl
      all_goals exact ended
    · intro _ _ same _
      cases said.symm.trans same
      rfl
  · have other status body (same : reply = .answered status body)
        (refused : status = 400 ∨ status = 422) : False := expected ⟨status, body, same, refused⟩
    -- Whatever else comes back, the answer is of no interest.
    cases outcome : Client.outcomeOf User.decoder reply with
    | ok user =>
      rw [outcome] at ended
      exact ⟨_, ended, fun status body same refused => (other status body same refused).elim⟩
    | error fault =>
      rw [outcome] at ended
      dsimp only at ended
      split at ended
      all_goals exact ⟨_, ended, fun status body same refused => (other status body same refused).elim⟩

/-- The change of a password with any surroundings. The store is told of it only after the gate has let
somebody pass, with a password of at least eight characters that was typed twice, and then once; a form
that is not fit is answered with 400, and a refusal of the store with 400 or 422 in its words. Whoever
is known by what the store was told may pass the gate of every page. -/
theorem password_change (site : Site) (m : Memory) (r : Request) (id : List Char) (s : Surroundings)
    (before : Transcript) (routed : Routed r .changePassword id) :
    let handled := (handle site m r).run s before
    (∀ why, r.bearer = .error why → handled = ((delivered r (.error (.unreadable why)), m), before)) ∧
    ∀ token, r.bearer = .ok token →
      (∀ why, r.readBody NewPassword.decoder = .error why →
        handled = ((delivered r (.error (.unreadable why)), m), before)) ∧
      ∀ asked, r.readBody NewPassword.decoder = .ok asked →
        let passing := (gate site.store token true).run m s before
        (∃ checks, passing.2 = before.exchanged checks ∧
          ∀ q reply, (q, reply) ∈ checks → q.method ≠ .put) ∧
        (∀ why, passing.1.1 = .error why → handled = ((delivered r (.error why), m), passing.2)) ∧
        ∀ admin, passing.1.1 = .ok admin →
          (¬ asked.Fits → handled.1.1.status = 400 ∧ handled.2 = passing.2) ∧
          (asked.Fits → ∃ a data, site.store = some a ∧
            Lifts admin.user.metadata (s.clock before.looks) data ∧
            let change := a.outgoing (.renewing admin.token asked.password data)
            let reply := s.reply passing.2.exchanges change
            handled.2.exchanges = passing.2.exchanges ++ [(change, reply)] ∧
            (∀ status body, reply = .answered status body → status = 400 ∨ status = 422 →
              handled.1.1 =
                (Response.text 400 ((Backend.Refusal.ofBody body).faultMessage status)).withHeaders
                  sharedHeaders) ∧
            ∀ user : User, (∀ key, Json.find? key user.metadata = Json.find? key data) →
              PassesEverywhere site.store user) := by
  intro handled
  have whole : r.method ≠ "HEAD" := by
    rw [routed.changePassword.1]
    decide
  refine ⟨fun why unreadable => ?_, fun token bearer =>
    ⟨fun why unreadable => ?_, fun asked readable => ?_⟩⟩
  · exact run_handle routed (Act.run_bind_error (Act.run_reading_error unreadable))
  · refine run_handle routed ((Act.run_bind_ok (Act.run_reading bearer)).trans ?_)
    exact Act.run_bind_error (Act.run_reading_error unreadable)
  · intro passing
    obtain ⟨result, checks, ran, checked⟩ := gate_checks site.store token true m s before
    have ended : passing = ((result, m), before.exchanged checks) := ran
    have unchanged q reply (member : (q, reply) ∈ checks) : q.method ≠ .put := by
      obtain ⟨a, sent, -, rfl | rfl⟩ := checked q reply member
      all_goals exact fun put => nomatch put
    refine ⟨⟨checks, by rw [ended], unchanged⟩, fun why refused => ?_, fun admin passed => ⟨?_, ?_⟩⟩
    · rw [ended] at refused ⊢
      obtain rfl : result = .error why := refused
      exact run_handle routed (run_changePassword_refused bearer readable ran)
    · rw [ended] at passed ⊢
      obtain rfl : result = .ok admin := passed
      intro unfit
      obtain ⟨fault, told⟩ := Option.ne_none_iff_exists'.mp (mt passwordFault?_eq_none_iff.mp unfit)
      have answered : handled = _ :=
        run_handle routed (run_changePassword_unfit bearer readable ran told)
      rw [answered]
      exact ⟨delivered_status r _, rfl⟩
    · intro fits
      obtain ⟨a, store, sendable, named⟩ := gate_passed passed
      obtain ⟨_, _, -, -, read⟩ := named
      rw [ended] at passed ⊢
      obtain rfl : result = .ok admin := passed
      have lifts := passwordChanged_lifts (User.metadata_nodup read) (s.clock before.looks)
      refine ⟨a, _, store, lifts, ?_⟩
      intro change reply
      obtain ⟨result, changed, refused⟩ :=
        run_changePassword_fit store bearer readable ran sendable fits
      have answered : handled = _ := run_handle routed changed
      refine ⟨congrArg (fun ran => ran.2.exchanges) answered, fun status body said expected => ?_, ?_⟩
      · rw [answered, refused status body said expected, delivered_whole whole]
        rfl
      · exact fun user same => passesEverywhere (lifts.settled same)

private def pendingUser : List UInt8 :=
  Text.Utf8.encode "\x7b\"id\":\"u\",\"user_metadata\":\x7b\"must_change_password\":true\x7d\x7d".toList

private def weakFault : List UInt8 := Text.Utf8.encode "\x7b\"msg\":\"Weak password\"\x7d".toList

private def wantsStrong : Surroundings :=
  { Surroundings.unmoved (.answered 200 (some pendingUser)) with
    reply := fun _ q =>
      if q.method = .put then .answered 422 (some weakFault) else .answered 200 (some pendingUser) }

private def renewal : Request where
  method := "POST"
  path := "/admin/password".toList
  query := none
  headers := [("authorization", "Bearer t"), ("content-type", "application/json")]
  body := Text.Utf8.encode
    "\x7b\"new_password\":\"password\",\"confirm_password\":\"password\"\x7d".toList

private theorem renewal_routed : Routed renewal .changePassword [] := by
  have found : findRoute? "/admin/password".toList =
      some (⟨["admin".toList, "password".toList].map .fixed, [("POST", .changePassword)]⟩, []) := by
    decide
  exact ⟨by decide, _, found, by decide⟩

private theorem pendingUser_named :
    ∃ user, Names (.answered 200 (some pendingUser)) user ∧ PasswordPending user.metadata := by
  have read : ((Json.read User.decoder (Text.Utf8.symbols pendingUser)).toOption.map fun user =>
      ParishSite.mustChangePassword user.metadata) = some true := by decide +kernel
  obtain ⟨user, decoded, pending⟩ := Option.map_eq_some_iff.mp read
  exact ⟨user, ⟨200, pendingUser, rfl, rfl, of_toOption decoded⟩, mustChangePassword_iff.mp pending⟩

/-- The fault is told in the words of the store, and what the store was told lifts the block. -/
theorem weak_password_told :
    ∃ handled data, handled = (handle quietSite ⟨true, Feed.Cache.new 0 none⟩ renewal).run wantsStrong
        .empty ∧
      handled.1.1 = (Response.text 400 "Weak password").withHeaders sharedHeaders ∧
      storeAccess.outgoing (.renewing "t" "password" data) ∈ handled.2.requests ∧
      Json.find? "must_change_password" data = some (.bool false) := by
  have bearer : renewal.bearer = .ok (some "t") := of_toOption (by decide)
  have read : ((renewal.readBody NewPassword.decoder).toOption.map fun asked =>
      (asked.password, asked.confirmed)) = some ("password", "password") := by decide +kernel
  obtain ⟨⟨_, _, from?⟩, readable, same⟩ := Option.map_eq_some_iff.mp read
  cases same
  obtain ⟨user, names, pending⟩ := pendingUser_named
  have known (past : List (Outgoing × Reply)) :
      wantsStrong.reply past (storeAccess.outgoing (.checking "t")) = .answered 200 (some pendingUser) :=
    rfl
  have refuses (past : List (Outgoing × Reply)) (data : List (String × Json)) :
      wantsStrong.reply past (storeAccess.outgoing (.renewing "t" "password" data)) =
        .answered 422 (some weakFault) := rfl
  have sendable : (storeAccess.outgoing (.checking "t")).isSendable = true := by decide
  have long : 8 ≤ "password".length := by decide
  rw [← known Transcript.empty.exchanges] at names
  have message : (Backend.Refusal.ofBody (some weakFault)).faultMessage 422 = "Weak password" := by
    decide +kernel
  obtain ⟨-, readings⟩ := password_change quietSite ⟨true, Feed.Cache.new 0 none⟩ renewal []
    wantsStrong .empty renewal_routed
  obtain ⟨-, changes⟩ := readings _ bearer
  obtain ⟨-, -, passing⟩ := changes _ (of_toOption readable)
  obtain ⟨-, changed⟩ := passing _ (gate_passes rfl sendable names (.inl rfl))
  obtain ⟨a, data, store, lifts, told, refused, -⟩ := changed ⟨long, rfl⟩
  obtain rfl : storeAccess = a := Option.some.inj store
  refine ⟨_, data, rfl, ?_, ?_, lifts.lifted⟩
  · rw [refused 422 (some weakFault) (refuses _ _) (.inr rfl), message]
  · rw [Transcript.requests, told, List.map_append]
    exact List.mem_append_right _ List.mem_cons_self

end Service
end ParishSite
