import ParishSite.Proofs.GateOutcome
import ParishSite.Proofs.Mediation
import ParishSite.Proofs.RefusalWords
import ParishSite.Proofs.RosterCourse
import ParishSite.Proofs.WrittenTrees

/-! Refusals of the tables, as the client is told them. Where a page has no second way to ask, it asks
the tables once at most: a refusal ends it and is told by one rule, and so does a reply that is not
read. -/

namespace ParishSite

open Web (Outgoing Reply Request Response)

namespace Service

open Backend (Access Client Errand Fault Table)

variable {a : Access} {reads : List Text.Utf8.Symbol → Prop}

/-- A result tells of a reply: a refusal as what it is, and a reply that is not read as a bad answer of
the store. -/
structure TellsOf (reads : List Text.Utf8.Symbol → Prop) (tell : Fault → ε) (reply : Reply)
    (result : Except ε α) : Prop where
  refused : ∀ status body, reply = .answered status body → Web.isSuccess status = false →
    result = .error (tell ((Backend.Refusal.ofBody body).toFault status))
  unread : ∀ status body, reply = .answered status body → Web.isSuccess status = true →
    (∀ bytes, body = some bytes → ¬ reads (Text.Utf8.symbols bytes)) →
    ∃ fault, result = .error (tell fault) ∧ fault.toFailure.status = 502

namespace TellsOf

variable {tell : Fault → ε} {reply : Reply}

theorem of_ok {value : α} (tells : TellsOf reads tell reply (.ok value)) (other : Except ε β) :
    TellsOf reads tell reply other where
  refused status body same refused := nomatch tells.refused status body same refused
  unread status body same success unread := by
    obtain ⟨_, failed, _⟩ := tells.unread status body same success unread
    cases failed

theorem of_error {why : ε} (tells : TellsOf (α := α) reads tell reply (.error why)) :
    TellsOf (α := β) reads tell reply (.error why) where
  refused status body same refused :=
    congrArg Except.error (Except.error.inj (tells.refused status body same refused))
  unread status body same success unread := by
    obtain ⟨fault, failed, status⟩ := tells.unread status body same success unread
    exact ⟨fault, congrArg Except.error (Except.error.inj failed), status⟩

theorem bind {result : Except ε α} (tells : TellsOf reads tell reply result) (next : α → Except ε β) :
    TellsOf reads tell reply (result.bind next) := by
  cases result with
  | ok value => exact tells.of_ok _
  | error why => exact tells.of_error

theorem mapError {result : Except Fault α} (tells : TellsOf reads id reply result) (tell : Fault → ε) :
    TellsOf reads tell reply (result.mapError tell) where
  refused status body same refused := by
    rw [tells.refused status body same refused]
    rfl
  unread status body same success unread := by
    obtain ⟨fault, failed, told⟩ := tells.unread status body same success unread
    rw [failed]
    exact ⟨fault, rfl, told⟩

theorem outcomeOf (d : Json.Decoder α) (reply : Reply) :
    TellsOf (fun text => ∃ value, Json.read d text = .ok value) id reply (Client.outcomeOf d reply) where
  refused status body same refused := by
    simp only [same, Client.outcomeOf, refused]
    rfl
  unread status body same success unread := by
    simp only [same, Client.outcomeOf, success, if_true]
    cases body with
    | none => exact ⟨.unreachable, rfl, rfl⟩
    | some bytes =>
      cases decoded : Json.read d (Text.Utf8.symbols bytes) with
      | ok value => exact absurd ⟨value, decoded⟩ (unread bytes rfl)
      | error misfit =>
        simp only [decoded]
        exact ⟨.unexpected misfit, rfl, rfl⟩

end TellsOf

def ReadsRows (d : Json.Decoder α) (text : List Text.Utf8.Symbol) : Prop :=
  ∃ rows, Json.read (.list d) text = .ok rows

/-- A call asks once at most, and ends in what the reply tells. -/
def CallTells (reads : List Text.Utf8.Symbol → Prop) (call : Backend.Call α) : Prop :=
  ∀ s before, ∃ new, (runCall s before call).2.exchanges = before.exchanges ++ new ∧
    ∀ q reply, (q, reply) ∈ new → TellsOf reads id reply (runCall s before call).1

theorem CallTells.of_puts {q : Outgoing} {read : Reply → Except Fault α} {call : Backend.Call α}
    (puts : Puts q read call) (tells : ∀ reply, TellsOf reads id reply (read reply)) :
    CallTells reads call := by
  intro s before
  rcases puts.runs s before with ⟨-, reply, ran⟩ | ⟨-, ran⟩
  · rw [ran]
    refine ⟨[(q, reply)], rfl, fun _ _ member => ?_⟩
    cases List.mem_singleton.mp member
    exact tells reply
  · rw [ran]
    exact ⟨[], (List.append_nil _).symm, fun _ _ member => nomatch member⟩

theorem CallTells.select (q : Backend.Query) (d : Json.Decoder α) (token : Option String) :
    CallTells (ReadsRows d) (Client.select (some a) q d token) :=
  .of_puts (Client.select_puts q d token) (TellsOf.outcomeOf (.list d))

theorem CallTells.insert (table : String) (row : List (String × Json)) (d : Json.Decoder α)
    (token : String) : CallTells (ReadsRows d) (Client.insert (some a) table row d token) :=
  .of_puts (Client.insert_puts table row d token)
    fun reply => (TellsOf.outcomeOf (.list d) reply).bind _

theorem CallTells.update (table id : String) (row : List (String × Json)) (d : Json.Decoder α)
    (token : String) : CallTells (ReadsRows d) (Client.update (some a) table id row d token) :=
  .of_puts (Client.update_puts table id row d token)
    fun reply => (TellsOf.outcomeOf (.list d) reply).bind _

theorem CallTells.delete (table id token : String) :
    CallTells (ReadsRows .any) (Client.delete (some a) table id token) :=
  .of_puts (Puts.followed (Client.fetch_eq a (.removing table id token) (.list .any)) fun _ => rfl)
    fun reply => (TellsOf.outcomeOf (.list .any) reply).bind _

theorem CallTells.map {call : Backend.Call α} (tells : CallTells reads call) (f : α → β) :
    CallTells reads (call >>= fun rows => pure (f rows)) := by
  intro s before
  obtain ⟨new, exchanged, told⟩ := tells s before
  rw [runCall_bind]
  generalize runCall s before call = ran at exchanged told
  obtain ⟨result, after⟩ := ran
  cases result with
  | ok rows => exact ⟨new, exchanged, fun q reply member => (told q reply member).of_ok _⟩
  | error fault => exact ⟨new, exchanged, fun q reply member => (told q reply member).of_error⟩

theorem CallTells.drawn {next : KeySuffix → Backend.Call α}
    (tells : ∀ suffix, CallTells reads (next suffix)) :
    CallTells reads (ExceptT.lift Dialogue.keySuffix >>= next) := by
  intro s before
  rw [runCall_bind]
  exact tells (s.draw before.draws) s { before with draws := before.draws + 1 }

/-- A part that asks the tables nothing. -/
def Quiet (a : Access) (act : Act α) : Prop :=
  ∀ m s before, ∃ new, (act.run m s before).2.exchanges = before.exchanges ++ new ∧
    ∀ q reply, (q, reply) ∈ new → ¬ AtTables a q

/-- A part that ends in what the tables tell, if it asks them. -/
def Tells (a : Access) (reads : List Text.Utf8.Symbol → Prop) (act : Act α) : Prop :=
  ∀ m s before, ∃ new, (act.run m s before).2.exchanges = before.exchanges ++ new ∧
    ∀ q reply, (q, reply) ∈ new → AtTables a q →
      TellsOf reads (fun fault => Refusal.failed fault.toFailure) reply (act.run m s before).1.1

namespace Quiet

theorem of_silent {act : Act α}
    (silent : ∀ m s before, (act.run m s before).2.exchanges = before.exchanges) : Quiet a act :=
  fun m s before =>
    ⟨[], (silent m s before).trans (List.append_nil _).symm, fun _ _ member => nomatch member⟩

theorem pure (value : α) : Quiet a (pure value) := of_silent fun _ _ _ => rfl

theorem fail (why : Failure) : Quiet a (Act.fail why : Act α) := of_silent fun _ _ _ => rfl

theorem reading (read : Except Web.Rejection α) : Quiet a (Act.reading read) :=
  of_silent fun _ _ _ => by cases read <;> rfl

theorem checking (read : Except Failure α) : Quiet a (Act.checking read) :=
  of_silent fun _ _ _ => by cases read <;> rfl

theorem now : Quiet a Act.now := of_silent fun _ _ _ => rfl

theorem bind {act : Act α} {next : α → Act β} (quiet : Quiet a act)
    (rest : ∀ value, Quiet a (next value)) : Quiet a (act >>= next) := by
  intro m s before
  obtain ⟨new, exchanged, none⟩ := quiet m s before
  rcases Act.run_bind_cases act next m s before with
    ⟨why, kept, after, ran, ends⟩ | ⟨value, kept, after, ran, goes⟩
  · rw [ran] at exchanged
    rw [ends]
    exact ⟨new, exchanged, none⟩
  · rw [ran] at exchanged
    rw [goes]
    obtain ⟨more, further, noMore⟩ := rest value kept s after
    refine ⟨new ++ more, by rw [further, exchanged, List.append_assoc], fun q reply member => ?_⟩
    exact (List.mem_append.mp member).elim (none q reply) (noMore q reply)

theorem tells {act : Act α} {next : α → Act β} (quiet : Quiet a act)
    (rest : ∀ value, Tells a reads (next value)) : Tells a reads (act >>= next) := by
  intro m s before
  obtain ⟨new, exchanged, none⟩ := quiet m s before
  rcases Act.run_bind_cases act next m s before with
    ⟨why, kept, after, ran, ends⟩ | ⟨value, kept, after, ran, goes⟩
  · rw [ran] at exchanged
    rw [ends]
    exact ⟨new, exchanged, fun q reply member table => absurd table (none q reply member)⟩
  · rw [ran] at exchanged
    rw [goes]
    obtain ⟨more, further, told⟩ := rest value kept s after
    refine ⟨new ++ more, by rw [further, exchanged, List.append_assoc], fun q reply member table => ?_⟩
    rcases List.mem_append.mp member with early | late
    · exact absurd table (none q reply early)
    · exact told q reply late table

theorem gate {c : Client} (store : c = some a) (token : Option String) (mayChangePassword : Bool) :
    Quiet a (gate c token mayChangePassword) := by
  intro m s before
  obtain ⟨result, checks, ran, checked⟩ := gate_checks c token mayChangePassword m s before
  rw [ran]
  refine ⟨checks, rfl, fun q reply member => ?_⟩
  obtain ⟨b, sent, same, asked⟩ := checked q reply member
  cases store.symm.trans same
  apply AtAccounts.not_atTables
  rcases asked with rfl | rfl
  · exact ⟨"user", [], rfl⟩
  · exact ⟨"logout", [], rfl⟩

end Quiet

namespace Tells

theorem store {call : Backend.Call α} (tells : CallTells reads call) :
    Tells a reads (Act.store call) := by
  intro m s before
  obtain ⟨new, exchanged, told⟩ := tells s before
  rw [Act.run_store]
  exact ⟨new, exchanged, fun q reply member _ => (told q reply member).mapError _⟩

/-- After the tables were asked nothing more is asked of them. -/
theorem bind {act : Act α} {next : α → Act β} (tells : Tells a reads act)
    (rest : ∀ value, Quiet a (next value)) : Tells a reads (act >>= next) := by
  intro m s before
  obtain ⟨new, exchanged, told⟩ := tells m s before
  rcases Act.run_bind_cases act next m s before with
    ⟨why, kept, after, ran, ends⟩ | ⟨value, kept, after, ran, goes⟩
  · rw [ran] at exchanged told
    rw [ends]
    exact ⟨new, exchanged, fun q reply member table => (told q reply member table).of_error⟩
  · rw [ran] at exchanged told
    rw [goes]
    obtain ⟨more, further, none⟩ := rest value kept s after
    refine ⟨new ++ more, by rw [further, exchanged, List.append_assoc], fun q reply member table => ?_⟩
    rcases List.mem_append.mp member with early | late
    · exact (told q reply early table).of_ok _
    · exact absurd table (none q reply late)

theorem submit {site : Site} {r : Request} {token : Option String} {d : Json.Decoder α}
    {faults : Memory → α → List FieldFault} {write : α → String → Act β} (stored : site.store = some a)
    (writes : ∀ form token, Tells a reads (write form token)) :
    Tells a reads (submit site r token d faults write) := by
  refine (Quiet.reading _).tells fun form => ?_
  refine (Quiet.gate stored token false).tells fun admin => ?_
  have known : Quiet a (get : Act Memory) := .of_silent fun _ _ _ => rfl
  refine known.tells fun m => ?_
  exact (Quiet.checking _).tells fun _ => writes form admin.token

end Tells

def Reads : Table → List Text.Utf8.Symbol → Prop
  | .events => ReadsRows Event.decoder
  | .teams => ReadsRows TeamRow.decoder
  | .groups => ReadsRows Group.decoder
  | .announcements => ReadsRows Announcement.decoder
  | .believersClasses => ReadsRows BelieversClassRow.decoder

namespace Endpoint

/-- The pages with rows that ask for them in one way only. The pages of admins for teams ask again
without the column of leaders if it is not there, except to remove a team. -/
def isPlain : Endpoint → Bool
  | .events | .eventsFile | .event | .eventFile | .teams | .groups | .announcements | .believersClass
  | .remove _ => true
  | .list t | .create t | .update t => t ≠ .teams
  | _ => false

def Reads : Endpoint → List Text.Utf8.Symbol → Prop
  | .events | .eventsFile | .event | .eventFile => Service.Reads .events
  | .teams => Service.Reads .teams
  | .groups => Service.Reads .groups
  | .announcements => Service.Reads .announcements
  | .believersClass => Service.Reads .believersClasses
  | .list t | .create t | .update t => Service.Reads t
  | .remove _ => ReadsRows .any
  | _ => fun _ => True

end Endpoint

variable {site : Site} {r : Request} {id : List Char} {e : Endpoint}

theorem wantedCategory_quiet : Quiet a (wantedCategory r) := by
  refine (Quiet.reading _).bind fun name => ?_
  cases name with
  | none => exact .pure _
  | some name =>
    dsimp only
    cases EventCategory.ofFilter name with
    | ok wanted => exact .pure _
    | error unknown => exact .fail _

theorem foundEvent_tells (store : site.store = some a) :
    Tells a (Reads .events) (foundEvent site id) := by
  refine (Quiet.reading _).tells fun name => Tells.bind ?_ fun found => ?_
  · rw [store]
    exact .store (.map (.select _ _ _) _)
  · cases found with
    | some e => exact .pure _
    | none => exact .fail _

theorem act_tells (store : site.store = some a) (plain : e.isPlain = true) :
    Tells a e.Reads (act site id r e) := by
  obtain ⟨settings, client, feed⟩ := site
  obtain rfl : client = some a := store
  cases e with
  | events =>
    refine wantedCategory_quiet.tells fun category => ?_
    exact (Tells.store (.select _ _ _)).bind fun _ => .pure _
  | eventsFile =>
    refine wantedCategory_quiet.tells fun category => ?_
    refine (Tells.store (.select _ _ _)).bind fun found => ?_
    split
    · exact .fail _
    · exact Quiet.now.bind fun _ => .pure _
  | event => exact (foundEvent_tells rfl).bind fun _ => .pure _
  | eventFile => exact (foundEvent_tells rfl).bind fun _ => Quiet.now.bind fun _ => .pure _
  | teams => exact (Tells.store (.map (.select _ _ _) _)).bind fun _ => .pure _
  | groups => exact (Tells.store (.select _ _ _)).bind fun _ => .pure _
  | announcements => exact (Tells.store (.select _ _ _)).bind fun _ => .pure _
  | believersClass =>
    refine (Tells.store (.map (.select _ _ _) _)).bind fun found => ?_
    cases found with
    | some c => exact .pure _
    | none => exact .pure _
  | list t =>
    refine (Quiet.reading _).tells fun token => (Quiet.gate rfl token false).tells fun admin => ?_
    cases t with
    | teams => simp [Endpoint.isPlain] at plain
    | _ => exact (Tells.store (.select _ _ _)).bind fun _ => .pure _
  | create t =>
    refine (Quiet.reading _).tells fun token => ?_
    cases t with
    | teams => simp [Endpoint.isPlain] at plain
    | believersClasses =>
      refine (Tells.submit rfl fun form token => .store (.drawn fun suffix => ?_)).bind fun _ => .pure _
      exact .insert _ _ _ _
    | _ => exact (Tells.submit rfl fun form token => .store (.insert _ _ _ _)).bind fun _ => .pure _
  | update t =>
    refine (Quiet.reading _).tells fun token => (Quiet.reading _).tells fun name => ?_
    cases t with
    | teams => simp [Endpoint.isPlain] at plain
    | _ =>
      refine (Tells.submit rfl fun form token => .store (.update _ _ _ _ _)).bind fun row => ?_
      cases row with
      | some value => exact .pure _
      | none => exact .fail _
  | remove t =>
    refine (Quiet.reading _).tells fun token => (Quiet.reading _).tells fun name => ?_
    refine (Quiet.gate rfl token false).tells fun admin => ?_
    refine (Tells.store (.delete _ _ _)).bind fun found => ?_
    split
    · exact .pure _
    · exact .fail _
  | _ => simp [Endpoint.isPlain] at plain

/-- What the client is told when the tables refuse a request or answer it with something that is not
read, whatever they reply. The message is the one that the refusal gives, and never empty; the status is
400, 403 or 502. The code and the texts of a refusal are those of its members, and a text of another kind
makes a body one that says nothing. -/
theorem refusal_told (site : Site) (m : Memory) (r : Request) (e : Endpoint) (id : List Char)
    (s : Surroundings) (before : Transcript) (a : Access) (store : site.store = some a)
    (routed : Routed r e id) (plain : e.isPlain = true) :
    let handled := (handle site m r).run s before
    (∃ new, handled.2.exchanges = before.exchanges ++ new ∧
      ∀ q status body, (q, .answered status body) ∈ new → AtTables a q →
        (Web.isSuccess status = false → ∃ code message told,
          Backend.Words body status code message ∧ message ≠ "" ∧ Backend.ToldAs status code told ∧
          handled.1.1 = delivered r (.ok (.text told message)) ∧
          Web.isSuccess handled.1.1.status = false ∧ handled.1.1.status ∉ [401, 404, 422]) ∧
        (Web.isSuccess status = true →
          (∀ bytes, body = some bytes → ¬ e.Reads (Text.Utf8.symbols bytes)) →
          handled.1.1.status = 502)) ∧
    (∀ text ms name value, (Json.Node.ofText text).1 = .object ms →
      name ∈ ["error_code", "message", "msg", "error_description", "error"] → ms.Has name value →
      value ≠ .null → (∀ words, value ≠ .str (.ok words)) →
      ∀ refusal, Json.read Backend.Refusal.decoder text ≠ .ok refusal) ∧
    ∀ text ms refusal, (Json.Node.ofText text).1 = .object ms →
      Json.read Backend.Refusal.decoder text = .ok refusal → refusal.SaidBy ms := by
  intro handled
  refine ⟨?_, fun _ _ _ _ => Backend.mistyped_unread, fun _ _ _ => Backend.Refusal.saidBy_of_read⟩
  obtain ⟨new, exchanged, told⟩ := act_tells store plain m s before
  cases ran : (act site id r e).run m s before with
  | mk ended after =>
    obtain ⟨result, kept⟩ := ended
    have answered : handled = ((delivered r result, kept), after) := run_handle routed ran
    rw [ran] at exchanged told
    rw [answered]
    refine ⟨new, exchanged, fun q status body member table =>
      ⟨fun refused => ?_, fun success unread => ?_⟩⟩
    · obtain rfl := (told q _ member table).refused status body rfl refused
      obtain ⟨told, as, answer⟩ := Backend.toFailure_told status (Backend.Refusal.ofBody body).faultCode?
        ((Backend.Refusal.ofBody body).faultMessage status)
      have words := Backend.words body status
      have same : delivered r (.error (.failed ((Backend.Refusal.ofBody body).toFault status).toFailure)) =
          delivered r (.ok (.text told ((Backend.Refusal.ofBody body).faultMessage status))) :=
        congrArg (fun response => delivered r (.ok response)) answer
      dsimp only
      rw [same, delivered_status]
      exact ⟨_, _, told, words, words.filled, as, rfl, as.apart⟩
    · obtain ⟨fault, rfl, bad⟩ := (told q _ member table).unread status body rfl success unread
      dsimp only
      rw [delivered_status, ← bad]
      exact ofFailure_status fault.toFailure

private def refusing (status : Nat) (body : Option (List UInt8)) : Surroundings :=
  .unmoved (.answered status body)

private def asksGroups : Request := ⟨"GET", "/groups".toList, none, [], []⟩

private theorem asksGroups_routed : Routed asksGroups .groups [] := by
  have found : findRoute? "/groups".toList =
      some (⟨["groups".toList].map .fixed, [("GET", .groups)]⟩, []) := by decide
  exact ⟨by decide, _, found, by decide⟩

private def memory : Memory := ⟨true, Feed.Cache.new 0 none⟩

private theorem asksGroups_once (body : Option (List UInt8)) :
    ∃ q, AtTables storeAccess q ∧
      ((handle quietSite memory asksGroups).run (refusing 401 body) .empty).2.exchanges =
        [(q, .answered 401 body)] ∧
      ((handle quietSite memory asksGroups).run (refusing 404 body) .empty).2.exchanges =
        [(q, .answered 404 body)] :=
  ⟨_, ⟨["groups"], ((Table.groups.query.select "id,name,meeting_time,description").order "name"
    true).params, rfl⟩, rfl, rfl⟩

private def codedRefusal : List (String × Json) :=
  [("code", .str "22P02"), ("message", .str ""), ("msg", .str "invalid input syntax")]

private def codedBody : List UInt8 := Text.Utf8.encode (Json.obj codedRefusal).render

private theorem codedBody_tree :
    (Json.Node.ofText (Text.Utf8.symbols codedBody)).1 = .object (Json.memberTrees codedRefusal) := by
  have exact : (Json.obj codedRefusal).IsExact := ⟨trivial, trivial, trivial, trivial⟩
  rw [codedBody, Text.Utf8.symbols_encode, Json.ofText_render exact]
  rfl

private theorem codedBody_read :
    ∃ refusal, Json.read Backend.Refusal.decoder (Text.Utf8.symbols codedBody) = .ok refusal := by
  have read : (Json.read Backend.Refusal.decoder (Text.Utf8.symbols codedBody)).toOption.isSome := by
    decide +kernel
  obtain ⟨refusal, known⟩ := Option.isSome_iff_exists.mp read
  exact ⟨refusal, of_toOption known⟩

private theorem codedBody_words {code : Option String} {message : String}
    (said : ∀ refusal, Json.read Backend.Refusal.decoder (Text.Utf8.symbols codedBody) = .ok refusal →
      refusal.SaidBy (Json.memberTrees codedRefusal))
    (words : Backend.Words (some codedBody) 404 code message) :
    code = some "22P02" ∧ message = "invalid input syntax" := by
  cases words with
  | unread other =>
    obtain ⟨refusal, read⟩ := codedBody_read
    exact absurd read (other _ refusal rfl)
  | @read _ refusal _ _ whole read codes speaks =>
    cases whole
    obtain ⟨texts, value⟩ := said refusal read
    have known : refusal.code = some (.str "22P02") :=
      (value _).mpr ⟨_, .inl ⟨rfl, rfl⟩, Json.Node.noConfusion, rfl⟩
    have blank : refusal.message = some "" :=
      (texts "message" _ (by simp [Backend.Refusal.namedTexts]) _).mpr (.inr (.inl ⟨rfl, rfl⟩))
    have short : refusal.shortMessage = some "invalid input syntax" :=
      (texts "msg" _ (by simp [Backend.Refusal.namedTexts]) _).mpr (.inr (.inr (.inl ⟨rfl, rfl⟩)))
    constructor
    · cases codes with
      | text same => simpa [known] using same.symm
      | int same => simp [known] at same
      | float same => simp [known] at same
      | other noText => exact absurd known (noText _)
    · unfold Backend.Refusal.Says Backend.Refusal.texts at speaks
      rw [blank, short] at speaks
      rcases speaks with first | ⟨empty, -⟩
      · exact first.skip.head (by decide)
      · simpa using empty (some "invalid input syntax") (by simp)

/-- A refusal with 401 is no fault of the visitor, who is told so with 502, and one for the values that
were sent is told with 400 in its own words. -/
theorem closed_groups_told :
    ((handle quietSite memory asksGroups).run (refusing 401 none) .empty).1.1 =
        (Response.text 502 "Unauthorized").withHeaders sharedHeaders ∧
    ((handle quietSite memory asksGroups).run (refusing 404 (some codedBody)) .empty).1.1 =
        (Response.text 400 "invalid input syntax").withHeaders sharedHeaders := by
  constructor
  · obtain ⟨⟨new, exchanged, told⟩, -⟩ := refusal_told quietSite memory asksGroups .groups []
      (refusing 401 none) .empty storeAccess rfl asksGroups_routed rfl
    obtain ⟨q, table, asked, -⟩ := asksGroups_once none
    obtain rfl : new = [(q, .answered 401 none)] := exchanged.symm.trans asked
    obtain ⟨code, message, status, words, -, as, answered, -⟩ :=
      (told q 401 none List.mem_cons_self table).1 rfl
    rw [answered, delivered_whole (by decide)]
    cases words with
    | read whole => cases whole
    | unread =>
      cases as with
      | values rejects =>
        obtain ⟨text, none, -⟩ := rejects
        cases none
      | rows _ same => exact absurd same (by decide)
      | store => rfl
  · obtain ⟨⟨new, exchanged, told⟩, -, members⟩ := refusal_told quietSite memory asksGroups .groups []
      (refusing 404 (some codedBody)) .empty storeAccess rfl asksGroups_routed rfl
    obtain ⟨q, table, -, asked⟩ := asksGroups_once (some codedBody)
    obtain rfl : new = [(q, .answered 404 (some codedBody))] := exchanged.symm.trans asked
    obtain ⟨code, message, status, words, -, as, answered, -⟩ :=
      (told q 404 (some codedBody) List.mem_cons_self table).1 rfl
    rw [answered, delivered_whole (by decide)]
    obtain ⟨rfl, rfl⟩ := codedBody_words (fun refusal => members _ _ refusal codedBody_tree) words
    have rejects : Backend.Rejects (some "22P02") := ⟨_, rfl, by decide, .inl (by decide)⟩
    cases as with
    | values => rfl
    | rows other => exact absurd rejects other
    | store other => exact absurd rejects other

end Service
end ParishSite
