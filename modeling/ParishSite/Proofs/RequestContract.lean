import ParishSite.Proofs.RowRules
import ParishSite.Proofs.StoreCalls
import ParishSite.Service.Handle

/-! What each endpoint may ask of the store and of the channel, and when. Everything that is asked with
a token comes after the gate, and every row that is written is one that its table accepts. -/

namespace ParishSite.Service

open Backend (Access Errand Query Table)
open Web (Outgoing Request)

/-- The store has said, in the exchanges so far, whose token it is. -/
def Checked (a : Access) (token : String) (user : User) (past : History) : Prop :=
  ∃ status bytes, (a.outgoing (.checking token), .answered status (some bytes)) ∈ past ∧
    Web.isSuccess status = true ∧ Json.read User.decoder (Text.Utf8.symbols bytes) = .ok user

/-- The sender of a request came with a token, and the store has said that it belongs to a user whose
password need not be changed, or may be. -/
structure Passed (a : Access) (r : Request) (mayChangePassword : Bool) (token : String)
    (past : History) : Prop where
  bearer : r.bearer = .ok (some token)
  checked : ∃ user, Checked a token user past ∧
    (ParishSite.mustChangePassword user.metadata = true → mayChangePassword = true)

theorem Passed.mono {a : Access} {r : Request} {mayChangePassword : Bool} {token : String}
    {past later : History} (passed : Passed a r mayChangePassword token past)
    (growth : past <+: later) : Passed a r mayChangePassword token later := by
  obtain ⟨bearer, user, ⟨status, bytes, exchanged, known⟩, free⟩ := passed
  exact ⟨bearer, user, ⟨status, bytes, growth.subset exchanged, known⟩, free⟩

namespace Endpoint

def isAdmin : Endpoint → Bool
  | dashboard | login | logout | session | changePassword | recoverPassword
  | list _ | create _ | update _ | remove _ => true
  | _ => false

def isFeed : Endpoint → Bool
  | videos | videoSearch | liveVideo => true
  | _ => false

end Endpoint

/-- The errands that an endpoint may run, after the exchanges so far. -/
inductive Due (a : Access) (r : Request) (id : List Char) (past : History) :
    Endpoint → Errand → Prop
  | visit {e : Endpoint} {t : Table} {q : Query} (visitor : e.isAdmin = false)
      (same : q.table = t.name) : Due a r id past e (.reading q none)
  | account {e : Endpoint} {errand : Errand} {what : String} (admin : e.isAdmin = true)
      (area : errand.path = ["auth", "v1", what])
      (method : errand.method = .get ∨ errand.method = .post) : Due a r id past e errand
  | read {e : Endpoint} {t : Table} {q : Query} {token : String} (admin : e.isAdmin = true)
      (same : q.table = t.name) (passed : Passed a r false token past) :
      Due a r id past e (.reading q (some token))
  | add {t : Table} {row : List (String × Json)} {token : String} (accepts : t.Accepts row)
      (passed : Passed a r false token past) : Due a r id past (.create t) (.adding t.name row token)
  | change {t : Table} {name : String} {row : List (String × Json)} {token : String}
      (named : Request.pathText "id" id = .ok name) (accepts : t.Accepts row)
      (passed : Passed a r false token past) :
      Due a r id past (.update t) (.changing t.name name row token)
  | remove {t : Table} {name token : String} (named : Request.pathText "id" id = .ok name)
      (passed : Passed a r false token past) :
      Due a r id past (.remove t) (.removing t.name name token)
  | password {token : String} {body : Option Json} (passed : Passed a r true token past) :
      Due a r id past .changePassword ⟨.put, ["auth", "v1", "user"], [], some token, false, body⟩

/-- The requests that an endpoint may send, after the exchanges so far. -/
inductive Sends (site : Site) (r : Request) (id : List Char) (e : Endpoint) (past : History) :
    Outgoing → Prop
  | store {a : Access} {errand : Errand} (known : site.store = some a)
      (due : Due a r id past e errand) : Sends site r id e past (a.outgoing errand)
  | channel {what : String} {pairs : List (String × String)} (feed : e.isFeed = true) :
      Sends site r id e past (site.feed.outgoing what pairs)

section

variable {site : Site} {r : Request} {id : List Char} {e : Endpoint} {m : Memory} {past : History}

theorem may_of_due {errand : Errand}
    (due : ∀ a, site.store = some a → Due a r id past e errand) :
    Backend.Client.May (Sends site r id e) site.store errand past :=
  fun a known => .store known (due a known)

end

namespace Act

variable {allowed : History → Outgoing → Prop} {m : Memory} {past : History}

theorem fail_holds {ends : Memory → History → α → Prop} (why : Failure) :
    Holds allowed ends (fail why : Act α) m past := Holds.throw _

theorem fail_bind_holds {ends : Memory → History → β → Prop} (why : Failure) (next : α → Act β) :
    Holds allowed ends (fail why >>= next) m past :=
  have failed : Holds allowed (fun _ _ _ => False) (fail why : Act α) m past := fail_holds why
  failed.bind fun _ _ _ _ impossible => impossible.elim

theorem reading_holds (read : Except Web.Rejection α) :
    Holds allowed (fun kept _ value => m = kept ∧ read = .ok value) (reading read) m past := by
  cases read with
  | ok a => exact Holds.pure ⟨rfl, rfl⟩
  | error why => exact Holds.throw _

theorem checking_holds (check : Except Failure α) :
    Holds allowed (fun kept _ value => m = kept ∧ check = .ok value) (checking check) m past := by
  cases check with
  | ok a => exact Holds.pure ⟨rfl, rfl⟩
  | error why => exact Holds.throw _

theorem now_holds : Holds allowed (fun kept _ _ => m = kept) now m past :=
  Holds.lift fun _ => rfl

theorem outcome_holds {call : Backend.Call α} (asks : Asks allowed (fun _ _ => True) call past) :
    Holds allowed (fun kept _ _ => m = kept) (outcome call) m past := by
  apply Holds.lift
  exact Dialogue.Keeps.weaken asks (fun _ _ allows => allows) fun _ _ _ => rfl

theorem store_holds {call : Backend.Call α} (asks : Asks allowed (fun _ _ => True) call past) :
    Holds allowed (fun kept _ _ => m = kept) (store call) m past := by
  refine (outcome_holds asks).bind ?_
  intro _ later result growth rfl
  cases result with
  | ok a => exact Holds.pure rfl
  | error fault => exact fail_holds _

private theorem nested_holds {outer inner ε β : Type} {state : outer} {kept : inner}
    {call : ExceptT ε (StateT inner Dialogue) β}
    (holds : Holds allowed (fun _ _ _ => True) call kept past) :
    Holds (ε := Refusal) allowed (fun known _ _ => state = known)
      (ExceptT.lift (StateT.lift (call.run.run kept))) state past := by
  apply Holds.lift
  exact Dialogue.Keeps.weaken holds (fun _ _ allows => allows) fun _ _ _ => rfl

theorem roster_holds {call : Backend.RosterCall α}
    (holds : Holds allowed (fun _ _ _ => True) call m.hasLeaderColumn past) :
    Holds allowed (fun _ _ _ => True) (roster call) m past := by
  refine Holds.get_bind ((nested_holds holds).bind ?_)
  intro _ _ ⟨result, hasLeaderColumn⟩ _ rfl
  apply Holds.set_bind
  cases result with
  | ok a => exact Holds.pure trivial
  | error fault => exact fail_holds _

theorem feed_holds {call : Feed.CachedCall α}
    (holds : Holds allowed (fun _ _ _ => True) call m.cache past) :
    Holds allowed (fun _ _ _ => True) (feed call) m past := by
  refine Holds.get_bind ((nested_holds holds).bind ?_)
  intro _ _ ⟨result, cache⟩ _ rfl
  apply Holds.set_bind
  cases result with
  | ok a => exact Holds.pure trivial
  | error fault => exact fail_holds _

end Act

section

variable {site : Site} {r : Request} {id : List Char} {e : Endpoint} {m : Memory} {past : History}

theorem signOut_asks {token : String} (admin : e.isAdmin = true) :
    Asks (Sends site r id e) (fun _ _ => True) (site.store.signOut token) past := by
  have may : Backend.Client.May (Sends site r id e) site.store
      ⟨.post, ["auth", "v1", "logout"], [], some token, false, none⟩ past :=
    may_of_due fun a _ => .account admin rfl (.inr rfl)
  exact (Backend.Client.send_asks may).bind fun _ _ _ _ => Asks.pure trivial

def SignIn.IsKnown (c : Backend.Client) (token : Option String) (past : History) : SignIn → Prop
  | .unauthorized => True
  | .mustChangePassword who =>
    token = some who.token ∧ ∃ a, c = some a ∧ Checked a who.token who.user past
  | .authorized who =>
    token = some who.token ∧ (∃ a, c = some a ∧ Checked a who.token who.user past) ∧
      ParishSite.mustChangePassword who.user.metadata = false

theorem resolve_keeps {token : Option String} (admin : e.isAdmin = true) :
    (SignIn.resolve site.store token).Keeps (Sends site r id e)
      (fun later found => found.IsKnown site.store token later) past := by
  cases token with
  | none => exact trivial
  | some token =>
    have may : Backend.Client.May (Sends site r id e) site.store (.checking token) past :=
      may_of_due fun a _ => .account admin rfl (.inl rfl)
    refine Dialogue.Keeps.bind (Backend.Client.fetch_asks may) ?_
    intro later outcome answered
    cases outcome with
    | ok user =>
      obtain ⟨a, status, bytes, store, success, same, decoded⟩ := answered user rfl
      have known : ∃ a, site.store = some a ∧ Checked a token user later := by
        refine ⟨a, store, status, bytes, ?_, success, decoded⟩
        rw [same]
        exact List.mem_append_right _ (List.mem_singleton.mpr rfl)
      dsimp only
      split
      · exact ⟨rfl, known⟩
      · next free => exact ⟨rfl, known, Bool.eq_false_iff.mpr free⟩
    | error fault =>
      dsimp only
      split
      · exact Dialogue.Keeps.bind (signOut_asks admin) fun _ _ _ => trivial
      · exact trivial

/-- Whoever passes the gate came with the token, and the store knows it. -/
theorem gate_holds {token : Option String} (mayChangePassword : Bool) (admin : e.isAdmin = true)
    (bearer : r.bearer = .ok token) :
    Holds (Sends site r id e)
      (fun kept later who => m = kept ∧
        ∃ a, site.store = some a ∧ Passed a r mayChangePassword who.token later)
      (gate site.store token mayChangePassword) m past := by
  unfold gate
  split
  · exact Act.fail_holds _
  have resolved : Holds (ε := Refusal) (Sends site r id e)
      (fun kept later found => m = kept ∧ found.IsKnown site.store token later)
      (ExceptT.lift (StateT.lift (SignIn.resolve site.store token))) m past :=
    Holds.lift (Dialogue.Keeps.weaken (resolve_keeps admin) (fun _ _ allows => allows)
      fun _ _ known => ⟨rfl, known⟩)
  refine resolved.bind ?_
  intro _ later found _ ⟨rfl, known⟩
  cases found with
  | authorized who =>
    obtain ⟨rfl, ⟨a, store, checked⟩, free⟩ := known
    refine Holds.pure ⟨rfl, a, store, bearer, who.user, checked, ?_⟩
    intro must
    rw [free] at must
    cases must
  | mustChangePassword who =>
    obtain ⟨rfl, a, store, checked⟩ := known
    dsimp only
    split
    · next may => exact Holds.pure ⟨rfl, a, store, bearer, who.user, checked, fun _ => may⟩
    · exact Act.fail_holds _
  | unauthorized => exact Act.fail_holds _

/-- After the gate, errands that need it may be run for the rest of the handling. -/
theorem may_after {mayChangePassword : Bool} {token : String} {later : History} {errand : Errand}
    (passed : ∃ a, site.store = some a ∧ Passed a r mayChangePassword token past)
    (growth : past <+: later)
    (due : ∀ a, Passed a r mayChangePassword token later → Due a r id later e errand) :
    Backend.Client.May (Sends site r id e) site.store errand later := by
  obtain ⟨a, store, passed⟩ := passed
  apply may_of_due
  intro b same
  rw [store] at same
  cases same
  exact due a (passed.mono growth)

/-- A form is written after the gate, and only if it has no fault. -/
theorem submit_holds {token : Option String} {d : Json.Decoder α}
    {faults : Memory → α → List FieldFault} {write : α → String → Act β} (admin : e.isAdmin = true)
    (bearer : r.bearer = .ok token)
    (writes : ∀ form token later, faults m form = [] →
      (∃ a, site.store = some a ∧ Passed a r false token later) →
      Holds (Sends site r id e) (fun _ _ _ => True) (write form token) m later) :
    Holds (Sends site r id e) (fun _ _ _ => True) (submit site r token d faults write) m past := by
  refine (Act.reading_holds _).bind ?_
  intro _ _ form _ ⟨rfl, _⟩
  refine (gate_holds false admin bearer).bind ?_
  intro _ passedAt who _ ⟨rfl, passed⟩
  apply Holds.get_bind
  refine (Act.checking_holds _).bind ?_
  intro _ later _ growth ⟨rfl, clean⟩
  obtain ⟨a, store, passed⟩ := passed
  apply writes form who.token later
  · unfold checked at clean
    split at clean
    · next empty => exact List.isEmpty_iff.mp empty
    · cases clean
  · exact ⟨a, store, passed.mono growth⟩

end
end ParishSite.Service
