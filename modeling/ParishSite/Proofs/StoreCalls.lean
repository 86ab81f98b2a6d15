import ParishSite.Backend.Roster
import ParishSite.Proofs.DialogueContract

/-! Every exchange with the store is one request, or none without a store. Teams may take two, and the
second of them leaves out the column of leaders. -/

namespace ParishSite.Backend

open Web (Outgoing Reply)

namespace Errand

def reading (q : Query) (token : Option String) : Errand :=
  ⟨.get, Client.tablePath q.table, q.params, token, false, none⟩

def adding (table : String) (row : List (String × Json)) (token : String) : Errand :=
  ⟨.post, Client.tablePath table, [], some token, true, some (.obj row)⟩

def changing (table id : String) (row : List (String × Json)) (token : String) : Errand :=
  ⟨.patch, Client.tablePath table, Client.rowPairs id, some token, true, some (.obj row)⟩

def removing (table id token : String) : Errand :=
  ⟨.delete, Client.tablePath table, Client.rowPairs id, some token, true, none⟩

def checking (token : String) : Errand :=
  ⟨.get, ["auth", "v1", "user"], [], some token, false, none⟩

end Errand

variable {allowed : History → Outgoing → Prop} {past : History}

/-- An errand may be run now, if there is a store to run it at. -/
def Client.May (allowed : History → Outgoing → Prop) (c : Client) (e : Errand) (past : History) :
    Prop :=
  ∀ a, c = some a → allowed past (a.outgoing e)

namespace Client

theorem send_asks {c : Client} {e : Errand} (may : c.May allowed e past) :
    Asks allowed
      (fun later body => ∃ a status, c = some a ∧ Web.isSuccess status = true ∧
        later = past ++ [(a.outgoing e, .answered status body)])
      (c.send e) past := by
  cases c with
  | none => exact Asks.throw _
  | some a =>
    have asked : Asks (ε := Fault) allowed
        (fun later reply => reply = .dropped ∨ later = past ++ [(a.outgoing e, reply)])
        (ExceptT.lift (Dialogue.ask (a.outgoing e))) past :=
      Asks.lift (Dialogue.Keeps.ask (may a rfl) (fun _ => .inr rfl) (.inl rfl))
    refine asked.bind ?_
    intro later reply _ exchanged
    cases reply with
    | dropped => exact Asks.throw _
    | answered status body =>
      rcases exchanged with lost | exchanged
      · cases lost
      dsimp only
      split
      · next success => exact Asks.pure ⟨a, status, rfl, success, exchanged⟩
      · exact Asks.throw _

theorem fetch_asks {c : Client} {e : Errand} {d : Json.Decoder α} (may : c.May allowed e past) :
    Asks allowed
      (fun later value => ∃ a status bytes, c = some a ∧ Web.isSuccess status = true ∧
        later = past ++ [(a.outgoing e, .answered status (some bytes))] ∧
        Json.read d (Text.Utf8.symbols bytes) = .ok value)
      (c.fetch e d) past := by
  refine (send_asks may).bind ?_
  intro later body _ exchanged
  obtain ⟨a, status, store, success, same⟩ := exchanged
  cases body with
  | none => exact Asks.throw _
  | some bytes =>
    dsimp only
    split
    · next value decoded => exact Asks.pure ⟨a, status, bytes, store, success, same, decoded⟩
    · exact Asks.throw _

/-- What a reply means for a read of its body. -/
def outcomeOf (d : Json.Decoder α) : Reply → Except Fault α
  | .dropped => .error .unreachable
  | .answered status body =>
    if Web.isSuccess status then
      match body with
      | none => .error .unreachable
      | some bytes => (Json.read d (Text.Utf8.symbols bytes)).mapError .unexpected
    else .error ((Refusal.ofBody body).toFault status)

theorem outcomeOf_ok_iff {d : Json.Decoder α} {reply : Reply} {value : α} :
    outcomeOf d reply = .ok value ↔
      ∃ status bytes, reply = .answered status (some bytes) ∧ Web.isSuccess status = true ∧
        Json.read d (Text.Utf8.symbols bytes) = .ok value := by
  cases reply with
  | dropped => simp [outcomeOf]
  | answered status body =>
    cases success : Web.isSuccess status with
    | false => simp [outcomeOf, success]
    | true =>
      cases body with
      | none => simp [outcomeOf, success]
      | some bytes =>
        cases read : Json.read d (Text.Utf8.symbols bytes) <;>
          simp [outcomeOf, success, read, Except.mapError]

/-- An exchange is one request, and its outcome depends on the reply alone. -/
theorem fetch_eq (a : Access) (e : Errand) (d : Json.Decoder α) :
    ExceptT.run (fetch (some a) e d) =
      (Dialogue.ask (a.outgoing e)).bind fun reply => .done (outcomeOf d reply) := by
  have cut : ExceptT.run (fetch (some a) e d) =
      (((Dialogue.ask (a.outgoing e)).bind fun reply =>
        .done (Except.ok reply : Except Fault Reply)).bind _).bind _ := rfl
  rw [cut, Dialogue.bind_assoc, Dialogue.bind_assoc]
  congr 1
  funext reply
  cases reply with
  | dropped => rfl
  | answered status body =>
    dsimp only [outcomeOf, Dialogue.done_bind, ExceptT.bindCont]
    cases success : Web.isSuccess status with
    | false => rfl
    | true =>
      cases body with
      | none => rfl
      | some bytes =>
        simp only [if_true]
        cases read : Json.read d (Text.Utf8.symbols bytes) with
        | ok value =>
          change ExceptT.bindCont _ (.ok (some bytes)) = _
          simp only [ExceptT.bindCont, read]
          rfl
        | error misfit =>
          change ExceptT.bindCont _ (.ok (some bytes)) = _
          simp only [ExceptT.bindCont, read]
          rfl

theorem select_asks {c : Client} {q : Query} {d : Json.Decoder α} {token : Option String}
    (may : c.May allowed (.reading q token) past) :
    Asks allowed (fun _ _ => True) (c.select q d token) past := (fetch_asks may).forget

theorem insert_asks {c : Client} {table : String} {row : List (String × Json)}
    {d : Json.Decoder α} {token : String} (may : c.May allowed (.adding table row token) past) :
    Asks allowed (fun _ _ => True) (c.insert table row d token) past := by
  refine (fetch_asks may).bind ?_
  intro later rows _ _
  cases rows with
  | nil => exact Asks.throw _
  | cons row rows => exact Asks.pure trivial

theorem update_asks {c : Client} {table id : String} {row : List (String × Json)}
    {d : Json.Decoder α} {token : String}
    (may : c.May allowed (.changing table id row token) past) :
    Asks allowed (fun _ _ => True) (c.update table id row d token) past :=
  (fetch_asks may).bind fun _ _ _ _ => Asks.pure trivial

theorem delete_asks {c : Client} {table id token : String}
    (may : c.May allowed (.removing table id token) past) :
    Asks allowed (fun _ _ => True) (c.delete table id token) past :=
  (fetch_asks may).bind fun _ _ _ _ => Asks.pure trivial

end Client

namespace Roster

theorem run_holds {call : Call α} {flag : Bool} (asks : Asks allowed (fun _ _ => True) call past) :
    Holds allowed (fun kept _ _ => flag = kept) (run call) flag past := by
  refine Dialogue.Keeps.bind asks ?_
  intro _ _ _ _ _
  exact rfl

theorem outcome_holds {call : Call α} {flag : Bool}
    (asks : Asks allowed (fun _ _ => True) call past) :
    Holds allowed (fun kept _ _ => flag = kept) (outcome call) flag past := by
  apply Holds.lift
  exact Dialogue.Keeps.weaken asks (fun _ _ allows => allows) fun _ _ _ => rfl

/-- The column is only written while the table is taken to have it. -/
theorem write_holds {attempt : Bool → Call α} {flag : Bool}
    (asks : ∀ later withLeader, past <+: later → (withLeader = true → flag = true) →
      Asks allowed (fun _ _ => True) (attempt withLeader) later) :
    Holds allowed (fun _ _ _ => True) (write attempt) flag past := by
  apply Holds.get_bind
  refine (outcome_holds (asks past flag List.prefix_rfl id)).bind ?_
  intro _ _ result growth rfl
  cases result with
  | ok a => exact Holds.pure trivial
  | error fault =>
    dsimp only
    split
    · apply Holds.set_bind
      exact (run_holds (asks _ false growth fun no => nomatch no)).forget
    · exact Holds.throw _

end Roster
end ParishSite.Backend
