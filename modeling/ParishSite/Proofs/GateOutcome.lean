import Mathlib.Data.List.Infix
import ParishSite.Proofs.ClosedGate
import ParishSite.Proofs.RosterCourse

/-! What the gate asks the store, and what it ends in for every reply. There is one question, whose
token it is, and at most one request after it: a session whose user is there no more is ended. The
first reply alone decides who passes. -/

namespace ParishSite

open Web (Outgoing Reply Request)

namespace Backend

def Errand.leaving (token : String) : Errand :=
  ⟨.post, ["auth", "v1", "logout"], [], some token, false, none⟩

theorem Access.outgoing_sendable (a : Access) (e e' : Errand) (same : e'.token = e.token) :
    (a.outgoing e').isSendable = (a.outgoing e).isSendable := by
  have scheme (e : Errand) : (a.outgoing e).url.scheme = a.url.scheme :=
    (Web.Url.scheme_withPairs _ _).trans (Web.Url.scheme_extended _ _)
  unfold Outgoing.isSendable Web.Url.isHttp
  rw [scheme, scheme]
  unfold outgoing
  rw [same]

namespace Client

variable {a : Access}

def receiptOf : Reply → Except Fault (Option (List UInt8))
  | .dropped => .error .unreachable
  | .answered status body =>
    if Web.isSuccess status then .ok body else .error ((Refusal.ofBody body).toFault status)

theorem send_puts (e : Errand) : Puts (a.outgoing e) receiptOf (send (some a) e) := by
  have cut : ExceptT.run (send (some a) e) =
      ((Dialogue.ask (a.outgoing e)).bind fun reply =>
        .done (Except.ok reply : Except Fault Reply)).bind _ := rfl
  unfold Puts
  rw [cut, Dialogue.bind_assoc]
  congr 1
  funext reply
  cases reply with
  | dropped => rfl
  | answered status body =>
    dsimp only [receiptOf, Dialogue.done_bind, ExceptT.bindCont]
    cases Web.isSuccess status <;> rfl

theorem signOut_puts (token : String) :
    Puts (a.outgoing (.leaving token)) (fun reply => (receiptOf reply).bind fun _ => .ok ())
      (signOut (some a) token) :=
  (send_puts (.leaving token)).followed fun _ => rfl

theorem user_puts (token : String) :
    Puts (a.outgoing (.checking token)) (outcomeOf User.decoder) (user (some a) token) :=
  fetch_eq a (.checking token) User.decoder

end Client

/-- A reply tells whose token it was asked about. -/
def Names (reply : Reply) (user : User) : Prop :=
  ∃ status bytes, reply = .answered status (some bytes) ∧ Web.isSuccess status = true ∧
    Json.read User.decoder (Text.Utf8.symbols bytes) = .ok user

theorem names_iff {reply : Reply} {user : User} :
    Names reply user ↔ Client.outcomeOf User.decoder reply = .ok user :=
  Client.outcomeOf_ok_iff.symm

theorem not_names_refused {status : Nat} {body : Option (List UInt8)}
    (refused : Web.isSuccess status = false) : ¬ ∃ user, Names (.answered status body) user := by
  intro named
  obtain ⟨user, status', bytes, same, success, -⟩ := named
  cases same
  rw [refused] at success
  cases success

theorem Fault.containsText_iff {part text : List Char} :
    containsText part text = true ↔ part <:+: text := by
  induction text with
  | nil => simp [containsText]
  | cons c text ih =>
    rw [containsText, Bool.or_eq_true, List.isPrefixOf_iff_prefix, ih, List.infix_cons_iff]

/-- A refusal says, in the words that it is told with, that the user of the session is there no
more. -/
def SaysGone (reply : Reply) : Prop :=
  ∃ status body, reply = .answered status body ∧ Web.isSuccess status = false ∧
    "User from sub claim in JWT does not exist".toList <:+:
      ((Refusal.ofBody body).faultMessage status).toList

def readsGone (reply : Reply) : Bool :=
  match Client.outcomeOf User.decoder reply with
  | .ok _ => false
  | .error fault => fault.isMissingUser

theorem readsGone_iff {reply : Reply} : readsGone reply = true ↔ SaysGone reply := by
  cases reply with
  | dropped => simp [readsGone, SaysGone, Client.outcomeOf, Fault.isMissingUser]
  | answered status body =>
    cases success : Web.isSuccess status with
    | false =>
      simp only [readsGone, SaysGone, Client.outcomeOf, success, Bool.false_eq_true, if_false,
        Refusal.toFault, Fault.isMissingUser, Fault.containsText_iff]
      constructor
      · exact fun told => ⟨status, body, rfl, success, told⟩
      · intro gone
        obtain ⟨_, _, same, _, told⟩ := gone
        cases same
        exact told
    | true =>
      have quiet : ¬ SaysGone (.answered status body) := by
        intro gone
        obtain ⟨_, _, same, refused, -⟩ := gone
        cases same
        rw [success] at refused
        cases refused
      refine iff_of_false ?_ quiet
      cases body with
      | none => simp [readsGone, Client.outcomeOf, success, Fault.isMissingUser]
      | some bytes =>
        cases read : Json.read User.decoder (Text.Utf8.symbols bytes) <;>
          simp [readsGone, Client.outcomeOf, success, read, Except.mapError, Fault.isMissingUser]

end Backend

/-- What is known of a person says that the password must be changed before anything else. -/
def PasswordPending (metadata : List (String × Json)) : Prop :=
  Json.find? "must_change_password" metadata = some (.bool true) ∨
    Json.find? "must_change_password" metadata = some (.str "true") ∨
    Json.find? "must_change_password" metadata = some (.str "1") ∨
    Json.find? "must_change_password" metadata = some (.int 1)

theorem mustChangePassword_iff {metadata : List (String × Json)} :
    mustChangePassword metadata = true ↔ PasswordPending metadata := by
  unfold mustChangePassword PasswordPending
  split
  · next flag found => simp [found]
  · next flag found => simp [found]
  · next n found => simp [found]
  · next noFlag noText noInt =>
    refine iff_of_false Bool.false_ne_true ?_
    rintro (found | found | found | found)
    · exact noFlag _ found
    · exact noText _ found
    · exact noText _ found
    · exact noInt _ found

namespace Service

open Backend (Access Client Errand Names SaysGone readsGone)

/-- What the store is told once it has said that the user is there no more: the session ends. The reply
to that does not matter. -/
def partingFrom (a : Access) (token : String) (reply : Reply) : Dialogue Unit :=
  if readsGone reply then (Dialogue.ask (a.outgoing (.leaving token))).bind fun _ => .done ()
  else .done ()

def verdict (token : String) (mayChangePassword : Bool) (reply : Reply) : Except Refusal Admin :=
  match Client.outcomeOf User.decoder reply with
  | .error _ => .error (.failed invalidSession)
  | .ok user =>
    if ParishSite.mustChangePassword user.metadata && !mayChangePassword then
      .error (.failed (.forbidden "Password change required before continuing"))
    else .ok ⟨token, user⟩

def SignIn.ofReply (token : String) (reply : Reply) : SignIn :=
  match Client.outcomeOf User.decoder reply with
  | .error _ => .unauthorized
  | .ok user =>
    if ParishSite.mustChangePassword user.metadata then .mustChangePassword ⟨token, user⟩
    else .authorized ⟨token, user⟩

theorem SignIn.resolve_eq (a : Access) (token : String) :
    SignIn.resolve (some a) (some token) =
      (Dialogue.ask (a.outgoing (.checking token))).bind fun reply =>
        (partingFrom a token reply).bind fun _ => .done (SignIn.ofReply token reply) := by
  change (Dialogue.bind (ExceptT.run (Client.user (some a) token)) _) = _
  rw [Client.user_puts, Dialogue.bind_assoc]
  congr 1
  funext reply
  dsimp only [Dialogue.done_bind]
  unfold partingFrom readsGone SignIn.ofReply
  cases Client.outcomeOf User.decoder reply with
  | ok user =>
    dsimp only
    split <;> rfl
  | error fault =>
    dsimp only
    split
    · change Dialogue.bind (ExceptT.run (Client.signOut (some a) token)) _ = _
      rw [Client.signOut_puts, Dialogue.bind_assoc, Dialogue.bind_assoc]
      rfl
    · rfl

/-- The gate asks the store once, whatever comes back, and the session of a user who is there no more
is ended on the way. -/
theorem gate_eq (a : Access) (token : String) (mayChangePassword : Bool) (m : Memory) :
    (ExceptT.run (gate (some a) (some token) mayChangePassword)).run m =
      (Dialogue.ask (a.outgoing (.checking token))).bind fun reply =>
        (partingFrom a token reply).bind fun _ =>
          .done (verdict token mayChangePassword reply, m) := by
  have cut : (ExceptT.run (gate (some a) (some token) mayChangePassword)).run m =
      (((SignIn.resolve (some a) (some token)).bind fun found => .done (found, m)).bind
        fun found => .done (Except.ok found.1, found.2)).bind _ := rfl
  rw [cut, SignIn.resolve_eq]
  simp only [Dialogue.bind_assoc]
  congr 1
  funext reply
  congr 1
  funext _
  simp only [Dialogue.done_bind]
  unfold SignIn.ofReply verdict
  cases Client.outcomeOf User.decoder reply with
  | error fault => rfl
  | ok user =>
    dsimp only
    cases ParishSite.mustChangePassword user.metadata <;> cases mayChangePassword <;> rfl

variable {s : Surroundings} {before : Transcript} {m : Memory} {token : String}
  {mayChangePassword : Bool} {a : Access} {reply : Reply}

theorem run_partingFrom (sendable : (a.outgoing (.checking token)).isSendable = true) :
    ((partingFrom a token reply).run s before).2 = before.exchanged
      (if readsGone reply then
        [(a.outgoing (.leaving token), s.reply before.exchanges (a.outgoing (.leaving token)))]
      else []) := by
  have leaves : (a.outgoing (.leaving token)).isSendable = true :=
    (a.outgoing_sendable (.checking token) (.leaving token) rfl).trans sendable
  unfold partingFrom
  split
  · rw [Dialogue.run_bind, Dialogue.run_ask leaves]
    rfl
  · exact (Transcript.exchanged_nil before).symm

/-- What the gate ends in does not depend on what comes back for the end of a session. -/
theorem run_gate_verdict (sendable : (a.outgoing (.checking token)).isSendable = true) :
    let question := a.outgoing (.checking token)
    let reply := s.reply before.exchanges question
    (gate (some a) (some token) mayChangePassword).run m s before =
      ((verdict token mayChangePassword reply, m),
        ((partingFrom a token reply).run s (before.asked question reply)).2) := by
  intro question reply
  change ((ExceptT.run (gate (some a) (some token) mayChangePassword)).run m).run s before = _
  rw [gate_eq, Dialogue.run_bind, Dialogue.run_ask sendable, Dialogue.run_bind]
  rfl

theorem run_gate_unsendable (lost : (a.outgoing (.checking token)).isSendable = false) :
    (gate (some a) (some token) mayChangePassword).run m s before =
      ((.error (.failed invalidSession), m), before) := by
  change ((ExceptT.run (gate (some a) (some token) mayChangePassword)).run m).run s before = _
  rw [gate_eq, Dialogue.run_bind, Dialogue.run_ask_unsendable (Bool.eq_false_iff.mp lost)]
  rfl

/-- Nothing is done, and a status says why. -/
def Denied (ended : Except Refusal α) (status : Nat) : Prop :=
  ∃ why, ended = .error (.failed why) ∧ why.status = status

theorem not_denied_ok {value : α} {status : Nat} : ¬ Denied (.ok value) status :=
  fun ⟨_, failed, _⟩ => nomatch failed

theorem denied_error {why : Failure} {status : Nat} :
    Denied (α := α) (.error (.failed why)) status ↔ why.status = status := by
  simp [Denied]

/-- What the gate ends in says of a token what a reply says of it, and nothing else. -/
structure Judges (token : String) (mayChangePassword : Bool) (reply : Reply)
    (ended : Except Refusal Admin) : Prop where
  passed : ∀ who, ended = .ok who ↔ who.token = token ∧ Names reply who.user ∧
    (mayChangePassword = true ∨ ¬ PasswordPending who.user.metadata)
  forbidden : Denied ended 403 ↔
    ∃ user, Names reply user ∧ mayChangePassword = false ∧ PasswordPending user.metadata
  unauthorized : Denied ended 401 ↔ ¬ ∃ user, Names reply user

theorem judges_unnamed (nobody : ¬ ∃ user, Names reply user) :
    Judges token mayChangePassword reply (.error (.failed invalidSession)) where
  passed who := iff_of_false (fun same => nomatch same) fun known => nobody ⟨_, known.2.1⟩
  forbidden := iff_of_false (by simp [denied_error, invalidSession, Failure.status])
    fun ⟨user, known, _⟩ => nobody ⟨user, known⟩
  unauthorized := iff_of_true (denied_error.mpr rfl) nobody

theorem judges_forbidden {user : User} (names : ∀ other, Names reply other ↔ other = user)
    (pending : PasswordPending user.metadata) (message : String) :
    Judges token false reply (.error (.failed (.forbidden message))) where
  passed who := by
    refine iff_of_false (fun same => nomatch same) ?_
    intro passing
    obtain ⟨_, known, free⟩ := passing
    rw [(names _).mp known] at free
    exact free.elim Bool.false_ne_true fun settled => settled pending
  forbidden := iff_of_true (denied_error.mpr rfl) ⟨user, (names user).mpr rfl, rfl, pending⟩
  unauthorized := iff_of_false (by simp [denied_error, Failure.status])
    fun nobody => nobody ⟨user, (names user).mpr rfl⟩

theorem judges_passed {user : User} (names : ∀ other, Names reply other ↔ other = user)
    (free : mayChangePassword = true ∨ ¬ PasswordPending user.metadata) :
    Judges token mayChangePassword reply (.ok ⟨token, user⟩) where
  passed who := by
    rw [names]
    constructor
    · intro same
      cases same
      exact ⟨rfl, rfl, free⟩
    · rintro ⟨rfl, rfl, -⟩
      rfl
  forbidden := by
    refine iff_of_false not_denied_ok ?_
    intro closing
    obtain ⟨other, known, closed, pending⟩ := closing
    rw [(names other).mp known] at pending
    exact free.elim (fun may => Bool.false_ne_true (closed.symm.trans may))
      fun settled => settled pending
  unauthorized := iff_of_false not_denied_ok fun nobody => nobody ⟨user, (names user).mpr rfl⟩

theorem verdict_judges (token : String) (mayChangePassword : Bool) (reply : Reply) :
    Judges token mayChangePassword reply (verdict token mayChangePassword reply) := by
  unfold verdict
  cases told : Client.outcomeOf User.decoder reply with
  | error fault =>
    refine judges_unnamed ?_
    intro named
    obtain ⟨user, names⟩ := named
    rw [Backend.names_iff, told] at names
    cases names
  | ok user =>
    have names (other : User) : Names reply other ↔ other = user := by
      rw [Backend.names_iff, told, Except.ok.injEq]
      exact eq_comm
    dsimp only
    cases must : ParishSite.mustChangePassword user.metadata with
    | false =>
      refine judges_passed names (.inr ?_)
      rw [← mustChangePassword_iff, must]
      exact Bool.false_ne_true
    | true =>
      cases mayChangePassword with
      | false => exact judges_forbidden names (mustChangePassword_iff.mp must) _
      | true => exact judges_passed names (.inl rfl)

theorem gate_passed {c : Client} {token : Option String} {admin : Admin}
    (passed : ((gate c token mayChangePassword).run m s before).1.1 = .ok admin) :
    ∃ a, c = some a ∧ (a.outgoing (.checking admin.token)).isSendable = true ∧
      Names (s.reply before.exchanges (a.outgoing (.checking admin.token))) admin.user := by
  cases c with
  | none => cases passed
  | some a =>
    cases token with
    | none => cases passed
    | some token =>
      cases sendable : (a.outgoing (.checking token)).isSendable with
      | false =>
        rw [run_gate_unsendable sendable] at passed
        cases passed
      | true =>
        rw [run_gate_verdict sendable] at passed
        obtain ⟨rfl, names, -⟩ := ((verdict_judges token mayChangePassword _).passed admin).mp passed
        exact ⟨a, rfl, sendable, names⟩

theorem gate_passes {c : Client} {user : User} (store : c = some a)
    (sendable : (a.outgoing (.checking token)).isSendable = true)
    (names : Names (s.reply before.exchanges (a.outgoing (.checking token))) user)
    (free : mayChangePassword = true ∨ ¬ PasswordPending user.metadata) :
    ((gate c (some token) mayChangePassword).run m s before).1.1 = .ok ⟨token, user⟩ := by
  rw [store, run_gate_verdict sendable]
  exact ((verdict_judges token mayChangePassword _).passed _).mpr ⟨rfl, names, free⟩

/-- The gate remembers nothing, and asks for nothing but whose token it is and for the end of a session. -/
theorem gate_checks (c : Client) (token : Option String) (mayChangePassword : Bool) (m : Memory)
    (s : Surroundings) (before : Transcript) :
    ∃ result checks, (gate c token mayChangePassword).run m s before =
        ((result, m), before.exchanged checks) ∧
      ∀ q reply, (q, reply) ∈ checks → ∃ a sent, c = some a ∧
        (q = a.outgoing (.checking sent) ∨ q = a.outgoing (.leaving sent)) := by
  have silent {result : Except Refusal Admin} {after : Transcript} (same : after = before) :
      ∃ result' checks, ((result, m), after) = ((result', m), before.exchanged checks) ∧
        ∀ q reply, (q, reply) ∈ checks → ∃ a sent, c = some a ∧
          (q = a.outgoing (.checking sent) ∨ q = a.outgoing (.leaving sent)) :=
    ⟨result, [], by rw [same, Transcript.exchanged_nil], fun _ _ member => nomatch member⟩
  cases c with
  | none => exact silent rfl
  | some a =>
    cases token with
    | none => exact silent rfl
    | some token =>
      cases sendable : (a.outgoing (.checking token)).isSendable with
      | false =>
        rw [run_gate_unsendable sendable]
        exact silent rfl
      | true =>
        rw [run_gate_verdict sendable, run_partingFrom sendable]
        refine ⟨_, _ :: _, congrArg _ (Transcript.exchanged_exchanged before [_] _), ?_⟩
        intro q reply member
        rcases List.mem_cons.mp member with same | member
        · cases same
          exact ⟨a, token, rfl, .inl rfl⟩
        · split at member
          · cases List.mem_singleton.mp member
            exact ⟨a, token, rfl, .inr rfl⟩
          · cases member

def CarriesNoToken (value : String) : Prop :=
  ∃ mark blanks, value.toList = mark ++ blanks ∧ mark.map Char.toLower = "bearer ".toList ∧
    ∀ c ∈ blanks, c = ' ' ∨ c = '\t'

def Anonymous (r : Request) : Prop :=
  r.header? "authorization" = none ∨
    ∃ value, r.header? "authorization" = some value ∧ CarriesNoToken value

theorem range_of_toLower {c : Char} (least : 32 ≤ c.toLower.toNat) (most : c.toLower.toNat < 127) :
    32 ≤ c.toNat ∧ c.toNat < 127 := by
  unfold Char.toLower at least most
  split at least
  · next capital =>
    have low : 65 ≤ c.toNat := UInt32.le_iff_toNat_le.mp capital.1
    have high : c.toNat ≤ 90 := UInt32.le_iff_toNat_le.mp capital.2
    omega
  · next other =>
    rw [dif_neg other] at most
    exact ⟨least, most⟩

theorem blank_iff {c : Char} :
    Text.isBlank c = true ∧ (c = '\t' ∨ 32 ≤ c.toNat ∧ c.toNat < 127) ↔ c = ' ' ∨ c = '\t' := by
  constructor
  · rintro ⟨blank, rfl | ⟨least, most⟩⟩
    · exact .inr rfl
    · left
      apply Char.toNat_inj.mp
      simp only [Text.isBlank, Bool.or_eq_true, Bool.and_eq_true, decide_eq_true_eq, beq_iff_eq] at blank
      change c.toNat = 32
      omega
  · rintro (rfl | rfl) <;> decide

theorem trimStart_eq_nil_iff {text : List Char} :
    Text.trimStart text = [] ↔ ∀ c ∈ text, Text.isBlank c = true := List.dropWhile_eq_nil_iff

/-- A header without a token is one of printable characters that ends in nothing but blanks. -/
theorem carriesNoToken_iff {value : String} :
    CarriesNoToken value ↔ (value.toList.take 7).map Char.toLower = "bearer ".toList ∧
      (∀ c ∈ value.toList, c = '\t' ∨ 32 ≤ c.toNat ∧ c.toNat < 127) ∧
      Text.trimStart (value.toList.drop 7) = [] := by
  constructor
  · intro carries
    obtain ⟨mark, blanks, cut, marked, blank⟩ := carries
    have length : mark.length = 7 := by
      have lengths := congrArg List.length marked
      rwa [List.length_map] at lengths
    have taken : value.toList.take 7 = mark := by rw [cut, ← length, List.take_left]
    have left : value.toList.drop 7 = blanks := by rw [cut, ← length, List.drop_left]
    refine ⟨taken.symm ▸ marked, fun c member => ?_, ?_⟩
    · rw [cut, List.mem_append] at member
      rcases member with inMark | inBlanks
      · have letters : "bearer ".toList.all (fun l => 32 ≤ l.toNat && l.toNat < 127) = true := rfl
        have lower : c.toLower ∈ "bearer ".toList := marked ▸ List.mem_map_of_mem inMark
        have printed := List.all_eq_true.mp letters _ lower
        rw [Bool.and_eq_true, decide_eq_true_eq, decide_eq_true_eq] at printed
        exact .inr (range_of_toLower printed.1 printed.2)
      · exact (blank_iff.mpr (blank c inBlanks)).2
    · rw [left, trimStart_eq_nil_iff]
      exact fun c member => (blank_iff.mpr (blank c member)).1
  · intro shape
    obtain ⟨marked, visible, nothing⟩ := shape
    refine ⟨_, _, (List.take_append_drop 7 _).symm, marked, fun c member => ?_⟩
    exact blank_iff.mp
      ⟨trimStart_eq_nil_iff.mp nothing c member, visible c (List.mem_of_mem_drop member)⟩

theorem bearer_eq_none_iff {r : Request} : r.bearer = .ok none ↔ Anonymous r := by
  have printable {c : Char} : (c == '\t' || (decide (32 ≤ c.toNat) && decide (c.toNat < 127))) = true ↔
      c = '\t' ∨ 32 ≤ c.toNat ∧ c.toNat < 127 := by simp
  unfold Request.bearer Anonymous
  cases r.header? "authorization" with
  | none => simp
  | some value =>
    simp only [reduceCtorEq, false_or, Option.some.injEq, exists_eq_left', carriesNoToken_iff]
    constructor
    · intro empty
      split at empty
      · next readable =>
        obtain ⟨marked, all⟩ := readable
        rw [List.all_eq_true] at all
        refine ⟨marked, fun c member => printable.mp (all c member), ?_⟩
        split at empty
        · next bare => exact String.ofList_eq_empty_iff.mp bare
        · cases empty
      · cases empty
    · intro shape
      obtain ⟨marked, visible, nothing⟩ := shape
      have all := List.all_eq_true.mpr fun c member => printable.mpr (visible c member)
      refine (if_pos ⟨marked, all⟩).trans ?_
      change Except.ok (if String.ofList (Text.trimStart (value.toList.drop 7)) = "" then none
        else some _) = _
      rw [nothing, if_pos rfl]

/-- The gate for every store, every token and every reply. Without a store or without a token nothing is
asked. Otherwise the store is asked once whose token it is, and what it replies decides: whoever it names
passes, unless the password must be changed first and this is not the place to do so. Once more it is
asked only to end the session of a user who is there no more, and the reply to that changes nothing. A
question that cannot be sent, for an address that is not of the web or a key that no header can hold, is
one that nobody answers. -/
theorem gate_outcome (c : Client) (r : Request) (token : Option String) (bearer : r.bearer = .ok token)
    (mayChangePassword : Bool) (m : Memory) (s : Surroundings) (before : Transcript) :
    let ended := (gate c token mayChangePassword).run m s before
    (c = none → ended.2 = before ∧ Denied ended.1.1 503) ∧
    (∀ a, c = some a → Anonymous r → ended.2 = before ∧ Denied ended.1.1 401) ∧
    (∀ a, c = some a → ¬ Anonymous r → ∃ sent, token = some sent ∧ sent ≠ "" ∧
      let question := a.outgoing (.checking sent)
      let parting := a.outgoing (.leaving sent)
      let reply := s.reply before.exchanges question
      let asked := before.exchanges ++ [(question, reply)]
      (question.isSendable = true →
        Judges sent mayChangePassword reply ended.1.1 ∧
        (SaysGone reply → ended.2.exchanges = asked ++ [(parting, s.reply asked parting)]) ∧
        (¬ SaysGone reply → ended.2.exchanges = asked) ∧
        ∀ s' : Surroundings, s'.reply before.exchanges question = reply →
          ((gate c token mayChangePassword).run m s' before).1 = ended.1) ∧
      (question.isSendable = false → ended.2 = before ∧ Denied ended.1.1 401)) := by
  intro ended
  refine ⟨?_, ?_, ?_⟩
  · rintro rfl
    exact ⟨rfl, denied_error.mpr rfl⟩
  · rintro a rfl anonymous
    rw [bearer_eq_none_iff.mpr anonymous] at bearer
    cases bearer
    exact ⟨rfl, denied_error.mpr rfl⟩
  · rintro a rfl named
    obtain ⟨sent, rfl⟩ : ∃ sent, token = some sent := by
      refine Option.ne_none_iff_exists'.mp ?_
      rintro rfl
      exact named (bearer_eq_none_iff.mp bearer)
    refine ⟨sent, rfl, bearer_filled bearer, ?_⟩
    intro question parting reply asked
    constructor
    · intro sendable
      have run : ended = _ := run_gate_verdict sendable
      have exchanged : ended.2.exchanges = asked ++
          if readsGone reply then [(parting, s.reply asked parting)] else [] := by
        rw [run]
        exact congrArg Transcript.exchanges (run_partingFrom sendable)
      refine ⟨?_, fun gone => ?_, fun known => ?_, fun s' same => ?_⟩
      · rw [run]
        exact verdict_judges sent mayChangePassword reply
      · rw [exchanged, if_pos (Backend.readsGone_iff.mpr gone)]
      · rw [exchanged, if_neg (mt Backend.readsGone_iff.mp known), List.append_nil]
      · rw [run, run_gate_verdict sendable, same]
    · intro lost
      have run : ended = _ := run_gate_unsendable lost
      rw [run]
      exact ⟨rfl, denied_error.mpr rfl⟩

private def lostUser : List UInt8 :=
  Text.Utf8.encode ("\x7b\"code\":403,\"error_code\":\"user_not_found\"," ++
    "\"msg\":\"User from sub claim in JWT does not exist\"\x7d").toList

private theorem lostUser_gone : SaysGone (.answered 403 (some lostUser)) := by
  refine ⟨403, some lostUser, rfl, rfl, ?_⟩
  have message : (Backend.Refusal.ofBody (some lostUser)).faultMessage 403 =
      "User from sub claim in JWT does not exist" := by decide +kernel
  rw [message]

private def losesUser : Surroundings := .unmoved (.answered 403 (some lostUser))

private def staleVisit : Request :=
  ⟨"GET", "/admin".toList, none, [("Authorization", "bearer  stale")], []⟩

/-- The session is ended with the same token, and the gate stays closed though that fails. -/
theorem lost_user_signed_out :
    ∃ ended, ended = (gate (some storeAccess) (some "stale") true).run
        ⟨true, Feed.Cache.new 0 none⟩ losesUser .empty ∧
      Denied ended.1.1 401 ∧ ended.2.requests =
        [storeAccess.outgoing (.checking "stale"), storeAccess.outgoing (.leaving "stale")] := by
  have bearer : staleVisit.bearer = .ok (some "stale") := of_toOption (by decide)
  have named : ¬ Anonymous staleVisit := by
    rw [← bearer_eq_none_iff, bearer]
    simp
  have sendable : (storeAccess.outgoing (.checking "stale")).isSendable = true := by decide
  obtain ⟨-, -, whole⟩ := gate_outcome (some storeAccess) staleVisit (some "stale") bearer true
    ⟨true, Feed.Cache.new 0 none⟩ losesUser .empty
  obtain ⟨sent, same, -, judged, -⟩ := whole storeAccess rfl named
  obtain rfl := Option.some.inj same
  obtain ⟨judges, gone, -, -⟩ := judged sendable
  -- What is replied is written out before it is used, so that it is not computed.
  have told (asked : List (Outgoing × Reply)) (q : Outgoing) :
      losesUser.reply asked q = .answered 403 (some lostUser) := rfl
  rw [told] at judges gone
  have closed := judges.unauthorized.mpr (Backend.not_names_refused rfl)
  have exchanged := gone lostUser_gone
  exact ⟨_, rfl, closed, congrArg (List.map Prod.fst) exchanged⟩

end Service
end ParishSite
