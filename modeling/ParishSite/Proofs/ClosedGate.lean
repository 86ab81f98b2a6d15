import ParishSite.Proofs.RowsWritten

/-! What is told to somebody whom the gate does not let through. A request is read before anybody is
asked for: one that cannot be read is answered with what is wrong with it, whoever sends it. Any other
is answered in the words of the gate, and these do not depend on what its body says. -/

namespace ParishSite.Service

open Backend (Table)
open Web (Rejection Request Response)

/-- The headers but for the kind of the body. -/
def plainHeaders (r : Request) : List (String × String) :=
  r.headers.filter fun (name, _) => Text.lowerAscii name ≠ "content-type"

/-- Two requests differ at most in their bodies and in what kind these are said to be. -/
structure SameButBody (r r' : Request) : Prop where
  method : r'.method = r.method
  path : r'.path = r.path
  query : r'.query = r.query
  headers : plainHeaders r' = plainHeaders r

theorem header_of_plainHeaders (r : Request) {name : String} (plain : name ≠ "content-type") :
    r.header? name =
      ((plainHeaders r).find? fun (n, _) => Text.lowerAscii n = name).map Prod.snd := by
  unfold Request.header? plainHeaders
  rw [List.find?_filter]
  congr 2
  funext header
  by_cases same : Text.lowerAscii header.1 = name
  · simp [same, plain]
  · simp [same]

namespace SameButBody

variable {r r' : Request}

theorem bearer (same : SameButBody r r') : r'.bearer = r.bearer := by
  have header : r'.header? "authorization" = r.header? "authorization" := by
    rw [header_of_plainHeaders r' (by decide), header_of_plainHeaders r (by decide), same.headers]
  unfold Request.bearer
  rw [header]

theorem routed {e : Endpoint} {id : List Char} (same : SameButBody r r') (routed : Routed r e id) :
    Routed r' e id := by
  unfold Routed
  rw [same.method, same.path]
  exact routed

theorem delivered (same : SameButBody r r') (result : Except Refusal Response) :
    delivered r' result = delivered r result := by
  unfold Service.delivered
  rw [same.method]

end SameButBody

namespace Endpoint

def isGuarded : Endpoint → Bool
  | .login | .logout | .session | .recoverPassword => false
  | e => e.isAdmin

/-- What is read of a request, besides the token, before anybody is asked for: the id of a row and the
form. -/
def parts (id : List Char) (r : Request) : Endpoint → Except Rejection Unit
  | .changePassword => do
    let _ ← r.readBody NewPassword.decoder
  | .create t => do
    let _ ← r.readBody t.formDecoder
  | .update t => do
    let _ ← Request.pathText "id" id
    let _ ← r.readBody t.formDecoder
  | .remove _ => do
    let _ ← Request.pathText "id" id
  | _ => .ok ()

def mayChangePassword (e : Endpoint) : Bool := e = .changePassword

end Endpoint

namespace SignIn

def passes (mayChangePassword : Bool) : SignIn → Bool
  | .authorized _ => true
  | .mustChangePassword _ => mayChangePassword
  | .unauthorized => false

/-- What the gate says to somebody who may not pass. -/
def refusal (c : Backend.Client) (found : SignIn) : Failure :=
  if c.isNone then
    .unavailable "Admin login is unavailable. Configure Supabase environment variables."
  else
    match found with
    | .mustChangePassword _ => .forbidden "Password change required before continuing"
    | _ => .unauthorized "Invalid or expired session"

theorem refusal_status (c : Backend.Client) (found : SignIn) :
    (found.refusal c).status = 503 ∨ (found.refusal c).status = 401 ∨
      (found.refusal c).status = 403 := by
  unfold refusal
  by_cases none : c.isNone = true
  · rw [if_pos none]
    exact .inl rfl
  · rw [if_neg none]
    cases found with
    | authorized who => exact .inr (.inl rfl)
    | mustChangePassword who => exact .inr (.inr rfl)
    | unauthorized => exact .inr (.inl rfl)

end SignIn

variable {site : Site} {m : Memory} {r : Request} {id : List Char} {s : Surroundings}
  {before after : Transcript} {token : Option String} {found : SignIn} {c : Backend.Client}

theorem resolve_none : (SignIn.resolve none token).run s before = (.unauthorized, before) := by
  cases token <;> rfl

theorem run_gate_refused {mayChangePassword : Bool}
    (asked : (SignIn.resolve c token).run s before = (found, after))
    (closed : found.passes mayChangePassword = false) :
    (gate c token mayChangePassword).run m s before =
      ((.error (.failed (found.refusal c)), m), after) := by
  unfold gate
  cases c with
  | none =>
    rw [resolve_none] at asked
    cases asked
    rfl
  | some a =>
    rw [if_neg (by simp)]
    refine (Act.run_bind_ok (Act.run_lift _)).trans ?_
    rw [asked]
    cases found with
    | authorized who => cases closed
    | mustChangePassword who =>
      cases closed
      rfl
    | unauthorized => rfl

/-- What is done behind the gate. The parts of the request are read first: if one of them cannot be
read, that is all, and otherwise a refusal of the gate is all. -/
structure Guarded (c : Backend.Client) (token : Option String) (mayChangePassword : Bool)
    (parts : Except Rejection Unit) (answer : Act α) : Prop where
  unreadable : ∀ {m s before why}, parts = .error why →
    answer.run m s before = ((.error (.unreadable why), m), before)
  refused : ∀ {m s before why after}, parts = .ok () →
    (gate c token mayChangePassword).run m s before = ((.error why, m), after) →
    answer.run m s before = ((.error why, m), after)

namespace Guarded

variable {mayChangePassword : Bool} {parts : Except Rejection Unit}

theorem gate (next : Admin → Act α) :
    Guarded c token mayChangePassword (.ok ()) (gate c token mayChangePassword >>= next) where
  unreadable failed := nomatch failed
  refused _ refused := Act.run_bind_error refused

theorem reading {read : Except Rejection α} {next : α → Act β}
    (rest : ∀ value, read = .ok value → Guarded c token mayChangePassword parts (next value)) :
    Guarded c token mayChangePassword (do let _ ← read; parts) (Act.reading read >>= next) where
  unreadable failed := by
    cases read with
    | error why =>
      cases failed
      exact Act.run_bind_error (Act.run_reading_error rfl)
    | ok value => exact (Act.run_bind_ok (Act.run_reading rfl)).trans ((rest value rfl).unreadable failed)
  refused ok refused := by
    cases read with
    | error why => cases ok
    | ok value =>
      exact (Act.run_bind_ok (Act.run_reading rfl)).trans ((rest value rfl).refused ok refused)

theorem known {read : Except Rejection α} {value : α} {next : α → Act β} (same : read = .ok value)
    (rest : Guarded c token mayChangePassword parts (next value)) :
    Guarded c token mayChangePassword parts (Act.reading read >>= next) where
  unreadable failed := (Act.run_bind_ok (Act.run_reading same)).trans (rest.unreadable failed)
  refused ok refused := (Act.run_bind_ok (Act.run_reading same)).trans (rest.refused ok refused)

theorem bind {answer : Act α} (guarded : Guarded c token mayChangePassword parts answer)
    (next : α → Act β) : Guarded c token mayChangePassword parts (answer >>= next) where
  unreadable failed := Act.run_bind_error (guarded.unreadable failed)
  refused ok refused := Act.run_bind_error (guarded.refused ok refused)

end Guarded

theorem submit_guarded {d : Json.Decoder α} {faults : Memory → α → List FieldFault}
    {write : α → String → Act β} :
    Guarded site.store token false (do let _ ← r.readBody d) (submit site r token d faults write) :=
  .reading fun _ _ => .gate _

theorem act_guarded {e : Endpoint} (guarded : e.isGuarded = true) (bearer : r.bearer = .ok token) :
    Guarded site.store token e.mayChangePassword (e.parts id r) (act site id r e) := by
  cases e with
  | dashboard => exact .known bearer (.gate _)
  | changePassword => exact .known bearer (.reading fun _ _ => .gate _)
  | list t => exact .known bearer (.gate _)
  | create t =>
    apply Guarded.known bearer
    -- the tables differ only in what is done behind the gate
    cases t
    all_goals exact submit_guarded.bind _
  | update t =>
    refine .known bearer (.reading fun name _ => ?_)
    cases t
    all_goals exact submit_guarded.bind _
  | remove t => exact .known bearer (.reading fun _ _ => .gate _)
  | _ => exact absurd guarded (by decide)

/-- Two requests to a guarded page that differ at most in their bodies, from somebody who may not
pass: if both can be read, all that happens is the same, and the answer is in the words of the gate.
One that cannot be read is answered with that alone, and nobody is asked for. -/
theorem closed_gate_tells_nothing_of_body (site : Site) (m : Memory) (s : Surroundings)
    (before : Transcript) (e : Endpoint) (id : List Char) (token : Option String) (r r' : Request)
    (guarded : e.isGuarded = true) (routed : Routed r e id) (bearer : r.bearer = .ok token)
    (closed : ((SignIn.resolve site.store token).run s before).1.passes e.mayChangePassword = false)
    (same : SameButBody r r') :
    let refusal := ((SignIn.resolve site.store token).run s before).1.refusal site.store
    (e.parts id r = .ok () → e.parts id r' = .ok () →
      (handle site m r').run s before = (handle site m r).run s before ∧
      ((handle site m r).run s before).1 = (delivered r (.error (.failed refusal)), m) ∧
      (refusal.status = 503 ∨ refusal.status = 401 ∨ refusal.status = 403)) ∧
    ∀ why, e.parts id r' = .error why →
      (handle site m r').run s before = ((delivered r (.error (.unreadable why)), m), before) := by
  intro refusal
  have bearer' : r'.bearer = .ok token := same.bearer.trans bearer
  constructor
  · intro readable readable'
    have refusal_run := run_gate_refused (m := m) rfl closed
    have refused := run_handle routed ((act_guarded guarded bearer).refused readable refusal_run)
    have refused' := run_handle (same.routed routed)
      ((act_guarded guarded bearer').refused readable' refusal_run)
    refine ⟨?_, congrArg Prod.fst refused, SignIn.refusal_status site.store _⟩
    rw [refused, refused', same.delivered]
  · intro why unreadable
    rw [← same.delivered]
    exact run_handle (same.routed routed) ((act_guarded guarded bearer').unreadable unreadable)

private def newGroup (body : String) : Request where
  method := "POST"
  path := "/admin/groups".toList
  query := none
  headers := [("Authorization", "Bearer stale"), ("Content-Type", "application/json")]
  body := Text.Utf8.encode body.toList

private def goodGroup : Request :=
  newGroup "\x7b\"name\":\"Men\",\"meeting_time\":\"Monday\",\"description\":\"On Mondays\"\x7d"

private def badGroup : Request := newGroup "\x7b\"name\":\"\",\"meeting_time\":\"\"\x7d"

private def emptyGroup : Request := newGroup "\x7b\x7d"

private theorem newGroup_routed (body : String) : Routed (newGroup body) (.create .groups) [] :=
  ⟨fun same => absurd same (by decide : "POST" ≠ "OPTIONS"), _, findRoute_groups, rfl⟩

private theorem newGroup_same (body body' : String) :
    SameButBody (newGroup body) (newGroup body') := ⟨rfl, rfl, rfl, rfl⟩

private theorem newGroup_bearer (body : String) : (newGroup body).bearer = .ok (some "stale") := by
  have bearer : goodGroup.bearer = .ok (some "stale") := of_toOption (by decide)
  exact (newGroup_same _ body).bearer.trans bearer

private theorem goodGroup_readable : (Endpoint.create .groups).parts [] goodGroup = .ok () :=
  of_toOption (by decide +kernel)

private def start : Memory := ⟨true, Feed.Cache.new 0 none⟩

private def unknownUser : Surroundings := .unmoved (.answered 401 none)

private theorem stale_refused :
    ((SignIn.resolve quietSite.store (some "stale")).run unknownUser .empty).1 = .unauthorized := by
  rfl

/-- The faults of a form are told to nobody who may not pass. -/
theorem bad_group_answered_as_good_one :
    (handle quietSite start badGroup).run unknownUser .empty =
      (handle quietSite start goodGroup).run unknownUser .empty ∧
    ((handle quietSite start goodGroup).run unknownUser .empty).1.1.status = 401 := by
  have bad : (Endpoint.create .groups).parts [] badGroup = .ok () := of_toOption (by decide +kernel)
  have closed : ((SignIn.resolve quietSite.store (some "stale")).run unknownUser .empty).1.passes
      (Endpoint.create .groups).mayChangePassword = false := by
    rw [stale_refused]
    rfl
  have told := closed_gate_tells_nothing_of_body quietSite start unknownUser .empty
    (.create .groups) [] (some "stale") goodGroup badGroup (by decide) (newGroup_routed _)
    (newGroup_bearer _) closed (newGroup_same _ _)
  obtain ⟨same, answer, -⟩ := told.1 goodGroup_readable bad
  refine ⟨same, ?_⟩
  rw [answer, stale_refused]
  rfl

/-- An object without members is told apart from a whole form, and an id that is no text is told apart
from the id of a row. -/
theorem empty_group_told_apart :
    let strayed : Request := ⟨"DELETE", "/admin/groups/%ff".toList, none, [], []⟩
    SameButBody goodGroup emptyGroup ∧ Routed goodGroup (.create .groups) [] ∧
      (Endpoint.create .groups).isGuarded = true ∧ goodGroup.bearer = .ok (some "stale") ∧
      ((SignIn.resolve quietSite.store (some "stale")).run unknownUser .empty).1 = .unauthorized ∧
      ((handle quietSite start goodGroup).run unknownUser .empty).1.1.status = 401 ∧
      ((handle quietSite start emptyGroup).run unknownUser .empty).1.1.status = 422 ∧
      ((handle quietSite start strayed).run unknownUser .empty).1.1.status = 400 := by
  intro strayed
  have whole : Routed goodGroup (.create .groups) [] := newGroup_routed _
  have lacking : Routed emptyGroup (.create .groups) [] := newGroup_routed _
  have refused : ((handle quietSite start goodGroup).run unknownUser .empty).1.1.status = 401 := by
    have bearer : goodGroup.bearer = .ok (some "stale") := newGroup_bearer _
    have guarded : Guarded quietSite.store (some "stale") false
        ((Endpoint.create .groups).parts [] goodGroup)
        (act quietSite [] goodGroup (.create .groups)) := act_guarded (e := .create .groups) rfl bearer
    have turned := guarded.refused goodGroup_readable
      (run_gate_refused (m := start) (Prod.ext stale_refused rfl) rfl)
    rw [run_handle whole turned]
    rfl
  have rejected : ((handle quietSite start emptyGroup).run unknownUser .empty).1.1.status = 422 := by
    have bearer : emptyGroup.bearer = .ok (some "stale") := newGroup_bearer _
    have guarded : Guarded quietSite.store (some "stale") false
        ((Endpoint.create .groups).parts [] emptyGroup)
        (act quietSite [] emptyGroup (.create .groups)) := act_guarded (e := .create .groups) rfl bearer
    have status : ((Endpoint.create .groups).parts [] emptyGroup).mapError Rejection.status =
        .error 422 := by decide
    cases read : (Endpoint.create .groups).parts [] emptyGroup with
    | ok _ =>
      rw [read] at status
      cases status
    | error why =>
      rw [read] at status
      rw [run_handle lacking (guarded.unreadable read), delivered_status]
      exact Except.error.inj status
  exact ⟨newGroup_same _ _, whole, by decide, newGroup_bearer _, stale_refused, refused,
    rejected, by decide⟩

end ParishSite.Service
