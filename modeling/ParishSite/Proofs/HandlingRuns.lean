import ParishSite.Proofs.CallRuns
import ParishSite.Proofs.EndpointRequests

/-! Handling a request step by step where the answers are known: what a computation ends in, what it
remembers and what it has asked, and the answer that is sent for it. -/

namespace ParishSite

open Web (Outgoing Reply Request Response)

namespace Service

variable {s : Surroundings} {m kept : Memory} {before after : Transcript}

namespace Act

def run (act : Act α) (m : Memory) (s : Surroundings) (before : Transcript) :
    (Except Refusal α × Memory) × Transcript :=
  (ExceptT.run act m).run s before

theorem run_eq (act : Act α) : act.run m s before = runAct s m before act := rfl

theorem run_bind_ok {act : Act α} {next : α → Act β} {value : α}
    (done : act.run m s before = ((.ok value, kept), after)) :
    (act >>= next).run m s before = (next value).run kept s after := by
  have held : runAct s m before act = ((.ok value, kept), after) := done
  refine (runAct_bind act next).trans ?_
  rw [held]
  rfl

theorem run_bind_error {act : Act α} {next : α → Act β} {why : Refusal}
    (failed : act.run m s before = ((.error why, kept), after)) :
    (act >>= next).run m s before = ((.error why, kept), after) := by
  have held : runAct s m before act = ((.error why, kept), after) := failed
  refine (runAct_bind act next).trans ?_
  rw [held]

/-- What comes after a part is not reached if the part fails, and starts where the part ends otherwise. -/
theorem run_bind_cases (act : Act α) (next : α → Act β) (m : Memory) (s : Surroundings)
    (before : Transcript) :
    (∃ why kept after, act.run m s before = ((.error why, kept), after) ∧
      (act >>= next).run m s before = ((.error why, kept), after)) ∨
    ∃ value kept after, act.run m s before = ((.ok value, kept), after) ∧
      (act >>= next).run m s before = (next value).run kept s after := by
  cases ran : act.run m s before with
  | mk ended after =>
    obtain ⟨result, kept⟩ := ended
    cases result with
    | error why => exact .inl ⟨why, kept, after, rfl, run_bind_error ran⟩
    | ok value => exact .inr ⟨value, kept, after, rfl, run_bind_ok ran⟩

theorem run_reading {read : Except Web.Rejection α} {value : α} (same : read = .ok value) :
    (reading read).run m s before = ((.ok value, m), before) := by
  rw [same]
  rfl

theorem run_reading_error {read : Except Web.Rejection α} {why : Web.Rejection}
    (failed : read = .error why) :
    (reading read).run m s before = ((.error (.unreadable why), m), before) := by
  rw [failed]
  rfl

theorem run_checking {read : Except Failure α} {value : α} (same : read = .ok value) :
    (checking read).run m s before = ((.ok value, m), before) := by
  rw [same]
  rfl

theorem run_lift (d : Dialogue α) :
    Act.run (ExceptT.lift (StateT.lift d)) m s before =
      ((.ok (d.run s before).1, m), (d.run s before).2) := runAct_lift d

theorem run_outcome (call : Backend.Call α) :
    (outcome call).run m s before =
      ((.ok (runCall s before call).1, m), (runCall s before call).2) := run_lift _

theorem run_store (call : Backend.Call α) :
    (store call).run m s before =
      (((runCall s before call).1.mapError fun fault => .failed fault.toFailure, m),
        (runCall s before call).2) := by
  refine (run_bind_ok (run_outcome call)).trans ?_
  cases (runCall s before call).1 <;> rfl

theorem run_feed (call : Feed.CachedCall α) :
    (feed call).run m s before =
      (((runAct s m.cache before call).1.1.mapError fun fault => .failed fault.toFailure,
        { m with cache := (runAct s m.cache before call).1.2 }), (runAct s m.cache before call).2) := by
  have held : runAct s m before (ExceptT.lift (StateT.lift (call.run.run m.cache)) : Act _) =
      ((.ok (runAct s m.cache before call).1, m), (runAct s m.cache before call).2) := runAct_lift _
  unfold feed
  rw [run_eq, runAct_get_bind, runAct_bind, held]
  obtain ⟨⟨result, cache⟩, after⟩ := runAct s m.cache before call
  cases result <;> rfl

theorem run_shown (call : Act α) (show' : α → β) :
    ((call >>= fun value => pure (show' value)).run m s before).1.1 =
      (call.run m s before).1.1.map show' := by
  rw [run_eq, run_eq, runAct_bind]
  obtain ⟨⟨result, kept⟩, after⟩ := runAct s m before call
  cases result <;> rfl

end Act

/-- The store says, when it is asked now, that a token belongs to a user whose password need not be
changed. -/
structure Welcomes (a : Backend.Access) (s : Surroundings) (before : Transcript) (token : String)
    (user : User) : Prop where
  sendable : (a.outgoing (.checking token)).isSendable = true
  answered : ∃ status bytes,
    s.reply before.exchanges (a.outgoing (.checking token)) = .answered status (some bytes) ∧
      Web.isSuccess status = true ∧ Json.read User.decoder (Text.Utf8.symbols bytes) = .ok user
  settled : ParishSite.mustChangePassword user.metadata = false

/-- What has been asked once a token was checked. -/
def afterCheck (a : Backend.Access) (s : Surroundings) (before : Transcript) (token : String) :
    Transcript :=
  before.asked (a.outgoing (.checking token))
    (s.reply before.exchanges (a.outgoing (.checking token)))

variable {a : Backend.Access} {token : String} {user : User}

theorem run_user (welcome : Welcomes a s before token user) :
    (ExceptT.run (Backend.Client.user (some a) token)).run s before =
      (.ok user, afterCheck a s before token) := by
  obtain ⟨status, bytes, answered, success, decoded⟩ := welcome.answered
  change (ExceptT.run (Backend.Client.fetch (some a) (.checking token) User.decoder)).run s before = _
  rw [Backend.Client.fetch_eq, Dialogue.run_bind, Dialogue.run_ask welcome.sendable]
  have outcome : Backend.Client.outcomeOf User.decoder
      (s.reply before.exchanges (a.outgoing (.checking token))) = .ok user := by
    rw [answered]
    simp only [Backend.Client.outcomeOf, success, if_true, decoded]
    rfl
  dsimp only
  rw [outcome]
  rfl

/-- Whoever is welcome passes the gate, and nothing but the question whose token it is has been
asked. -/
theorem run_gate (welcome : Welcomes a s before token user) (mayChangePassword : Bool) :
    (gate (some a) (some token) mayChangePassword).run m s before =
      ((.ok ⟨token, user⟩, m), afterCheck a s before token) := by
  have found : (SignIn.resolve (some a) (some token)).run s before =
      (.authorized ⟨token, user⟩, afterCheck a s before token) := by
    change (Dialogue.bind _ _).run s before = _
    rw [Dialogue.run_bind, run_user welcome]
    dsimp only
    rw [welcome.settled]
    rfl
  unfold gate
  rw [if_neg (by simp)]
  refine (Act.run_bind_ok (Act.run_lift _)).trans ?_
  rw [found]
  rfl

def responseOf : Except Refusal Response → Response
  | .ok response => response
  | .error why => why.toResponse

/-- The answer as it is sent for a request. -/
def delivered (r : Request) (result : Except Refusal Response) : Response :=
  let response := (responseOf result).withHeaders sharedHeaders
  if r.method = "HEAD" then response.withoutBody else response

theorem ofFailure_status (why : Failure) : (Response.ofFailure why).status = why.status := by
  cases why <;> rfl

theorem delivered_status (r : Request) (result : Except Refusal Response) :
    (delivered r result).status = (responseOf result).status := by
  unfold delivered
  dsimp only
  split <;> rfl

theorem delivered_whole {r : Request} (whole : r.method ≠ "HEAD")
    (result : Except Refusal Response) :
    delivered r result = (responseOf result).withHeaders sharedHeaders := by
  unfold delivered
  rw [if_neg whole]

theorem findRoute?_documentPath : findRoute? documentPath = none := by decide +kernel

theorem Routed.other {r : Request} {e : Endpoint} {id : List Char} (routed : Routed r e id)
    (site : Site) : site.showsDocument r = false := by
  obtain ⟨-, route, found, -⟩ := routed
  have differs : r.path ≠ documentPath := by
    intro same
    rw [same, findRoute?_documentPath] at found
    cases found
  simp [Site.showsDocument, differs]

theorem run_handle {site : Site} {r : Request} {e : Endpoint} {id : List Char}
    {result : Except Refusal Response} (routed : Routed r e id)
    (acted : (act site id r e).run m s before = ((result, kept), after)) :
    (handle site m r).run s before = ((delivered r result, kept), after) := by
  have other := routed.other site
  obtain ⟨asks, route, found, action⟩ := routed
  unfold handle
  simp only [other, Bool.false_eq_true, if_false, if_neg asks, found, action]
  change (Dialogue.bind (Dialogue.bind (ExceptT.run (act site id r e) m) _) _).run s before = _
  rw [Dialogue.run_bind, Dialogue.run_bind]
  have held : (ExceptT.run (act site id r e) m).run s before = ((result, kept), after) := acted
  rw [held]
  cases result <;> rfl

/-- The answer to a request depends on nothing but what its endpoint ends in. -/
theorem handle_answer {site : Site} {r : Request} {e : Endpoint} {id : List Char}
    (routed : Routed r e id) :
    ((handle site m r).run s before).1.1 = delivered r ((act site id r e).run m s before).1.1 :=
  congrArg (fun ran => ran.1.1) (run_handle routed rfl)

end Service
end ParishSite
