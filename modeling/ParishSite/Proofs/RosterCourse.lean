import ParishSite.Proofs.CallRuns
import ParishSite.Proofs.StoreCalls

/-! Everything that a call about teams can do: which errands it runs, one after another, what it ends
in, and what is taken of the column of leaders afterwards. -/

namespace ParishSite.Backend

open Web (Outgoing Reply)

variable {s : Surroundings} {before : Transcript} {a : Access}

def Access.exchange (a : Access) (pair : Errand × Reply) : Outgoing × Reply :=
  (a.outgoing pair.1, pair.2)

namespace Client

def addedRow (table : String) : List α → Except Fault α
  | row :: _ => .ok row
  | [] => .error (.refused 500 none ("Insert into " ++ table ++ " returned no rows"))

theorem select_puts (q : Query) (d : Json.Decoder α) (token : Option String) :
    Puts (a.outgoing (.reading q token)) (outcomeOf (.list d)) (select (some a) q d token) :=
  fetch_eq a _ _

theorem insert_puts (table : String) (row : List (String × Json)) (d : Json.Decoder α)
    (token : String) :
    Puts (a.outgoing (.adding table row token))
      (fun reply => (outcomeOf (.list d) reply).bind (addedRow table))
      (insert (some a) table row d token) := by
  refine Puts.followed (fetch_eq a (.adding table row token) (.list d)) ?_
  intro rows
  cases rows <;> rfl

theorem update_puts (table id : String) (row : List (String × Json)) (d : Json.Decoder α)
    (token : String) :
    Puts (a.outgoing (.changing table id row token))
      (fun reply => (outcomeOf (.list d) reply).bind fun rows => .ok rows.head?)
      (update (some a) table id row d token) :=
  Puts.followed (fetch_eq a (.changing table id row token) (.list d)) fun _ => rfl

end Client

def lacksColumn (column : String) : Reply → Bool
  | .dropped => false
  | .answered status body =>
    !Web.isSuccess status && ((Refusal.ofBody body).toFault status).isMissingColumn column

/-- Nothing but a refusal is ever read as the fault that a column is not there. -/
structure Honest (column : String) (read : Reply → Except Fault α) : Prop where
  lost : read .dropped = .error .unreachable
  answered : ∀ {reply value}, read reply = .ok value → lacksColumn column reply = false
  failed : ∀ {reply fault}, read reply = .error fault →
    fault.isMissingColumn column = lacksColumn column reply

theorem honest_outcomeOf (column : String) (d : Json.Decoder α) :
    Honest column (Client.outcomeOf d) where
  lost := rfl
  answered := by
    intro reply value ok
    cases reply with
    | dropped => rfl
    | answered status body =>
      cases success : Web.isSuccess status with
      | true => simp only [lacksColumn, success, Bool.not_true, Bool.false_and]
      | false =>
        simp only [Client.outcomeOf, success] at ok
        cases ok
  failed := by
    intro reply fault error
    cases reply with
    | dropped =>
      cases error
      rfl
    | answered status body =>
      cases success : Web.isSuccess status with
      | true =>
        simp only [lacksColumn, success, Bool.not_true, Bool.false_and]
        simp only [Client.outcomeOf, success, if_true] at error
        cases body with
        | none =>
          cases error
          rfl
        | some bytes =>
          dsimp only at error
          cases decoded : Json.read d (Text.Utf8.symbols bytes) with
          | ok value =>
            rw [decoded] at error
            cases error
          | error misfit =>
            rw [decoded] at error
            cases error
            rfl
      | false =>
        simp only [Client.outcomeOf, success] at error
        cases error
        simp only [lacksColumn, success, Bool.not_false, Bool.true_and]

theorem Honest.followed {column : String} {read : Reply → Except Fault α} {answer : α → Except Fault β}
    (honest : Honest column read)
    (own : ∀ {value fault}, answer value = .error fault → fault.isMissingColumn column = false) :
    Honest column fun reply => (read reply).bind answer where
  lost := by rw [honest.lost]; rfl
  answered := by
    intro reply value ok
    cases result : read reply with
    | error fault => rw [result] at ok; cases ok
    | ok rows => exact honest.answered result
  failed := by
    intro reply fault error
    cases result : read reply with
    | error other =>
      rw [result] at error
      cases error
      exact honest.failed result
    | ok rows =>
      rw [result] at error
      rw [honest.answered result]
      exact own error

/-- How it goes when an errand is run with the column of leaders if `asks`, and once more without it
if it is refused for want of the column. Told are the errands with their replies, the result, and
whether the table is taken to have the column afterwards; `flag` says what it was taken for before. -/
inductive Course (e : Bool → Errand) (read : Reply → Except Fault α) (asks flag : Bool) :
    List (Errand × Reply) → Except Fault α → Bool → Prop
  | unsent : Course e read asks flag [] (read .dropped) flag
  | answered {reply value} (ok : read reply = .ok value) :
      Course e read asks flag [(e asks, reply)] (.ok value) asks
  | failed {reply fault} (error : read reply = .error fault)
      (other : (asks && fault.isMissingColumn "leader") = false) :
      Course e read asks flag [(e asks, reply)] (.error fault) flag
  | cut {reply fault} (asked : asks = true) (error : read reply = .error fault)
      (missing : fault.isMissingColumn "leader" = true) :
      Course e read asks flag [(e true, reply)] (read .dropped) false
  | retried {reply again fault} (asked : asks = true) (error : read reply = .error fault)
      (missing : fault.isMissingColumn "leader" = true) :
      Course e read asks flag [(e true, reply), (e false, again)] (read again) false

namespace Roster

/-- What was exchanged in a call, after what was exchanged before it, and what the call ended in. -/
def Ends (a : Access) (before : Transcript)
    (course : List (Errand × Reply) → Except Fault α → Bool → Prop)
    (ended : (Except Fault α × Bool) × Transcript) : Prop :=
  ∃ asked, ended.2.exchanges = before.exchanges ++ asked.map a.exchange ∧
    course asked ended.1.1 ended.1.2

theorem runAct_outcome {flag : Bool} (call : Call α) :
    runAct s flag before (outcome call) =
      ((.ok (runCall s before call).1, flag), (runCall s before call).2) :=
  runAct_lift _

theorem runAct_run {flag : Bool} (call : Call α) :
    runAct s flag before (run call) =
      (((runCall s before call).1, flag), (runCall s before call).2) :=
  runAct_mk_lift _

/-- What becomes of an attempt that is made with the column of leaders if `asks`, and once more without
it if it is refused for want of the column. -/
def tried (s : Surroundings) (before : Transcript) (asks flag : Bool) (attempt : Bool → Call α) :
    (Except Fault α × Bool) × Transcript :=
  match runCall s before (attempt asks) with
  | (.ok value, after) => ((.ok value, asks), after)
  | (.error fault, after) =>
    if asks && fault.isMissingColumn "leader" then
      (((runCall s after (attempt false)).1, false), (runCall s after (attempt false)).2)
    else ((.error fault, flag), after)

theorem tried_ends (a : Access) (s : Surroundings) (before : Transcript) (asks flag : Bool)
    {attempt : Bool → Call α} {e : Bool → Errand} {read : Reply → Except Fault α}
    (puts : ∀ withLeader, Puts (a.outgoing (e withLeader)) read (attempt withLeader))
    (lost : read .dropped = .error .unreachable) :
    Ends a before (Course e read asks flag) (tried s before asks flag attempt) := by
  unfold tried
  rcases (puts asks).runs s before with ⟨-, reply, ran⟩ | ⟨-, ran⟩
  · rw [ran]
    cases outcome : read reply with
    | ok value => exact ⟨[_], rfl, .answered outcome⟩
    | error fault =>
      dsimp only
      split
      · next retry =>
        obtain ⟨asked, missing⟩ := Bool.and_eq_true_iff.mp retry
        subst asked
        rcases (puts false).runs s (before.exchanged [(a.outgoing (e true), reply)]) with
          ⟨-, again, ran⟩ | ⟨-, ran⟩
        · rw [ran]
          refine ⟨[_, _], ?_, .retried rfl outcome missing⟩
          simp [Access.exchange]
        · rw [ran]
          exact ⟨[_], rfl, .cut rfl outcome missing⟩
      · next other => exact ⟨[_], rfl, .failed outcome (Bool.eq_false_iff.mpr other)⟩
  · rw [ran, lost]
    have kept : (asks && Fault.unreachable.isMissingColumn "leader") = false := Bool.and_false asks
    dsimp only
    rw [if_neg (Bool.eq_false_iff.mp kept), ← lost]
    exact ⟨[], (List.append_nil _).symm, .unsent⟩

/-- A write asks for the column exactly while the table is taken to have it. -/
theorem runAct_write {flag : Bool} (attempt : Bool → Call α) :
    runAct s flag before (write attempt) = tried s before flag flag attempt := by
  unfold write tried
  rw [runAct_get_bind, runAct_bind, runAct_outcome]
  obtain ⟨result, after⟩ := runCall s before (attempt flag)
  cases result with
  | ok value => rfl
  | error fault =>
    dsimp only
    split
    · rw [runAct_set_bind, runAct_run]
    · rfl

def teamList (hasLeaderColumn : Bool) (rows : List TeamRow) : TeamList :=
  ⟨rows.map TeamItem.ofRow, groupOptions (rows.map TeamItem.ofRow), hasLeaderColumn⟩

/-- A read always asks for the column, and finds out whether the table has it. -/
theorem runAct_list {flag : Bool} (c : Client) (token : String) :
    runAct s flag before (list c token) =
      match tried s before true flag
        fun withLeader => c.select (query withLeader) TeamRow.decoder (some token) with
      | ((rows, kept), after) => ((rows.map (teamList kept), kept), after) := by
  unfold list tried
  rw [runAct_bind, runAct_outcome]
  obtain ⟨result, after⟩ := runCall s before (c.select (query true) TeamRow.decoder (some token))
  cases result with
  | ok rows => rfl
  | error fault =>
    dsimp only
    by_cases missing : fault.isMissingColumn "leader" = true
    · have retry : (true && fault.isMissingColumn "leader") = true := missing
      rw [if_pos missing, if_pos retry, runAct_set_bind, runAct_bind, runAct_run]
      obtain ⟨result, last⟩ := runCall s after (c.select (query false) TeamRow.decoder (some token))
      cases result <;> rfl
    · have settled : ¬ (true && fault.isMissingColumn "leader") = true := missing
      rw [if_neg missing, if_neg settled]
      rfl

end Roster

inductive RosterStep
  | list (token : String)
  | create (form : TeamForm) (token : String)
  | update (id : String) (form : TeamForm) (token : String)

namespace RosterStep

abbrev Answer : RosterStep → Type
  | list _ => TeamList
  | create _ _ => TeamItem
  | update _ _ _ => Option TeamItem

def call (c : Client) : (step : RosterStep) → RosterCall step.Answer
  | list token => Roster.list c token
  | create form token => Roster.create c form token
  | update id form token => Roster.update c id form token

def listing (token : String) (withLeader : Bool) : Errand :=
  .reading (Roster.query withLeader) (some token)

def placing (form : TeamForm) (token : String) : Errand :=
  .reading ((Table.teams.query.select "team_sort").eq "group_name" (Text.trimmed form.groupName))
    (some token)

def founding (form : TeamForm) (key : String) (sort : Int) (token : String) (withLeader : Bool) :
    Errand :=
  .adding Table.teams.name
    (form.columns withLeader ++ [("team_key", .str key), ("team_sort", .int sort)]) token

def altering (id : String) (form : TeamForm) (token : String) (withLeader : Bool) : Errand :=
  .changing Table.teams.name id (form.columns withLeader) token

def readAdded (reply : Reply) : Except Fault TeamRow :=
  (Client.outcomeOf (.list TeamRow.decoder) reply).bind (Client.addedRow Table.teams.name)

def readChanged (reply : Reply) : Except Fault (Option TeamRow) :=
  (Client.outcomeOf (.list TeamRow.decoder) reply).bind fun rows => .ok rows.head?

/-- How a call goes: the errands that it runs with their replies, what it ends in, and whether the
table is taken to have the column of leaders afterwards; the flag says what it was taken for before. -/
inductive Goes : (step : RosterStep) → (flag : Bool) → List (Errand × Reply) →
    Except Fault step.Answer → Bool → Prop
  | list {token flag asked rows kept}
      (course : Course (listing token) (Client.outcomeOf (.list TeamRow.decoder)) true flag asked rows
        kept) :
      Goes (.list token) flag asked (rows.map (Roster.teamList kept)) kept
  /-- The place of a new team could not be found out. -/
  | unplaced {form token flag asked fault}
      (place : asked = [] ∨ ∃ reply, asked = [(placing form token, reply)]) :
      Goes (.create form token) flag asked (.error fault) flag
  | create {form token flag place taken key asked row kept}
      (placed : Client.outcomeOf (.list Roster.sortDecoder) place = .ok taken)
      (course : Course (founding form key (nextTeamSort taken) token) readAdded flag flag asked row
        kept) :
      Goes (.create form token) flag ((placing form token, place) :: asked) (row.map TeamItem.ofRow)
        kept
  | update {id form token flag asked row kept}
      (course : Course (altering id form token) readChanged flag flag asked row kept) :
      Goes (.update id form token) flag asked (row.map (Option.map TeamItem.ofRow)) kept

theorem list_goes {flag : Bool} (token : String) :
    Roster.Ends a before (Goes (.list token) flag)
      (runAct s flag before ((list token).call (some a))) := by
  obtain ⟨asked, exchanges, course⟩ :=
    Roster.tried_ends a s before true flag (e := listing token)
      (fun withLeader => Client.select_puts (Roster.query withLeader) TeamRow.decoder (some token)) rfl
  change Roster.Ends a before _ (runAct s flag before (Roster.list (some a) token))
  rw [Roster.runAct_list]
  exact ⟨asked, exchanges, .list course⟩

theorem write_shown {flag : Bool} (attempt : Bool → Call α) (show' : α → β) :
    runAct s flag before (do return show' (← Roster.write attempt)) =
      match Roster.tried s before flag flag attempt with
      | ((row, kept), after) => ((row.map show', kept), after) := by
  rw [runAct_bind, Roster.runAct_write]
  obtain ⟨⟨row, kept⟩, after⟩ := Roster.tried s before flag flag attempt
  cases row <;> rfl

theorem update_goes {flag : Bool} (id : String) (form : TeamForm) (token : String) :
    Roster.Ends a before (Goes (.update id form token) flag)
      (runAct s flag before ((update id form token).call (some a))) := by
  obtain ⟨asked, exchanges, course⟩ :=
    Roster.tried_ends a s before flag flag (e := altering id form token)
      (fun withLeader =>
        Client.update_puts Table.teams.name id (form.columns withLeader) TeamRow.decoder token) rfl
  change Roster.Ends a before _ (runAct s flag before (Roster.update (some a) id form token))
  rw [Roster.update, write_shown]
  exact ⟨asked, exchanges, .update course⟩

theorem create_goes {flag : Bool} (form : TeamForm) (token : String) :
    Roster.Ends a before (Goes (.create form token) flag)
      (runAct s flag before ((create form token).call (some a))) := by
  change Roster.Ends a before _ (runAct s flag before (Roster.create (some a) form token))
  unfold Roster.create
  dsimp only
  rw [runAct_bind, Roster.runAct_run]
  rcases (Client.select_puts _ _ _).runs s before with ⟨-, place, ran⟩ | ⟨-, ran⟩
  · rw [ran]
    cases placed : Client.outcomeOf (.list Roster.sortDecoder) place with
    | ok taken =>
      dsimp only
      rw [runAct_bind, runAct_lift]
      dsimp only
      rw [write_shown]
      obtain ⟨asked, exchanges, course⟩ := Roster.tried_ends a s
        { before.exchanged [a.exchange (placing form token, place)] with draws := before.draws + 1 }
        flag flag
        (e := founding form (keyFor form.name "team" (s.draw before.draws)) (nextTeamSort taken) token)
        (fun withLeader => Client.insert_puts _ _ TeamRow.decoder token) rfl
      refine ⟨(placing form token, place) :: asked, ?_, .create placed course⟩
      rw [List.map_cons, List.append_cons]
      exact exchanges
    | error fault => exact ⟨[_], rfl, .unplaced (.inr ⟨place, rfl⟩)⟩
  · rw [ran]
    exact ⟨[], (List.append_nil _).symm, .unplaced (.inl rfl)⟩

theorem goes (step : RosterStep) (a : Access) (s : Surroundings) (before : Transcript)
    (flag : Bool) :
    Roster.Ends a before (Goes step flag) (runAct s flag before (step.call (some a))) := by
  cases step with
  | list token => exact list_goes token
  | create form token => exact create_goes form token
  | update id form token => exact update_goes id form token

end RosterStep
end ParishSite.Backend
