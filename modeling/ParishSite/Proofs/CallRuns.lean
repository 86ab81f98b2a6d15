import ParishSite.Proofs.DialogueContract
import ParishSite.Proofs.FallibleSteps

/-! Exchanges held one after another with given surroundings: what each of them ends in, what is
remembered after it and what has been asked. -/

namespace ParishSite

open Web (Outgoing Reply)

namespace Transcript

def asked (t : Transcript) (request : Outgoing) (reply : Reply) : Transcript :=
  { t with exchanges := t.exchanges ++ [(request, reply)] }

def exchanged (t : Transcript) (new : History) : Transcript :=
  { t with exchanges := t.exchanges ++ new }

@[simp] theorem exchanged_exchanges (t : Transcript) (new : History) :
    (t.exchanged new).exchanges = t.exchanges ++ new := rfl

@[simp] theorem exchanged_looks (t : Transcript) (new : History) :
    (t.exchanged new).looks = t.looks := rfl

def looked (t : Transcript) : Transcript := { t with looks := t.looks + 1 }

@[simp] theorem exchanged_nil (t : Transcript) : t.exchanged [] = t := by
  simp [exchanged]

@[simp] theorem exchanged_exchanged (t : Transcript) (first second : History) :
    (t.exchanged first).exchanged second = t.exchanged (first ++ second) := by
  simp [exchanged]

end Transcript

namespace Surroundings

private theorem start_inRange : Time.firstSecond ≤ 0 ∧ 0 ≤ Time.lastSecond := by decide

private theorem start_inSecond : 0 < 1000000000 ∨ (0 < 2000000000 ∧ (0 : Int) % 60 = 59) :=
  .inl (by decide)

private theorem first_draw : 0 < 36 := by decide

private theorem draws_count : (List.replicate 6 (⟨0, first_draw⟩ : Fin 36)).length = 6 := rfl

/-- Every request is given the same reply, the clock stands still and the same key is drawn. -/
def unmoved (reply : Reply) : Surroundings where
  reply _ _ := reply
  clock _ := ⟨0, 0, start_inRange, start_inSecond⟩
  draw _ := ⟨List.replicate 6 ⟨0, first_draw⟩, draws_count⟩

end Surroundings

namespace Dialogue

theorem run_bind (d : Dialogue α) (next : α → Dialogue β) (s : Surroundings) (before : Transcript) :
    (d.bind next).run s before = (next (d.run s before).1).run s (d.run s before).2 := by
  induction d generalizing before with
  | done value => rfl
  | send request resume ih => exact ih _ _
  | clock resume ih => exact ih _ _
  | draw resume ih => exact ih _ _

theorem run_ask {request : Outgoing} (sendable : request.isSendable = true) (s : Surroundings)
    (before : Transcript) :
    (ask request).run s before =
      (s.reply before.exchanges request, before.asked request (s.reply before.exchanges request)) := by
  unfold ask
  rw [if_pos sendable]
  rfl

theorem run_ask_unsendable {request : Outgoing} (unsendable : ¬ request.isSendable = true)
    (s : Surroundings) (before : Transcript) : (ask request).run s before = (.dropped, before) := by
  unfold ask
  rw [if_neg unsendable]
  rfl

end Dialogue

variable {α β ε σ : Type} {s : Surroundings} {before : Transcript} {memory : σ}

theorem cut_cons {α : Type _} {x y : α} {rest earlier later : List α}
    (cut : x :: rest = earlier ++ y :: later) :
    earlier = [] ∧ y = x ∧ later = rest ∨
      ∃ before, earlier = x :: before ∧ rest = before ++ y :: later := by
  rcases List.cons_eq_append_iff.mp cut with ⟨none, same⟩ | behind
  · exact .inl ⟨none, List.cons.inj same⟩
  · exact .inr behind

theorem cut_singleton {α : Type _} {x y : α} {earlier later : List α}
    (cut : [x] = earlier ++ y :: later) : y = x ∧ later = [] := by
  rcases cut_cons cut with ⟨-, same, ended⟩ | ⟨before, -, none⟩
  · exact ⟨same, ended⟩
  · simp at none

/-- Holds an exchange, after what has been asked before. -/
def runCall (s : Surroundings) (before : Transcript) (call : ExceptT ε Dialogue α) :
    Except ε α × Transcript :=
  (ExceptT.run call).run s before

theorem runCall_bind (call : ExceptT ε Dialogue α) (next : α → ExceptT ε Dialogue β) :
    runCall s before (call >>= next) =
      match runCall s before call with
      | (.ok value, after) => runCall s after (next value)
      | (.error why, after) => (.error why, after) := by
  have cut : runCall s before (call >>= next) = ((ExceptT.run call).bind _).run s before := rfl
  rw [cut, Dialogue.run_bind]
  unfold runCall
  obtain ⟨result, after⟩ := (ExceptT.run call).run s before
  cases result <;> rfl

/-- An exchange sends one request and ends in what the reply is read as. -/
def Puts (request : Outgoing) (read : Reply → Except ε α) (call : ExceptT ε Dialogue α) : Prop :=
  ExceptT.run call = (Dialogue.ask request).bind fun reply => .done (read reply)

theorem Puts.run_sent {request : Outgoing} {read : Reply → Except ε α} {call : ExceptT ε Dialogue α}
    (puts : Puts request read call) (sendable : request.isSendable = true) (s : Surroundings)
    (before : Transcript) :
    runCall s before call = (read (s.reply before.exchanges request),
      before.exchanged [(request, s.reply before.exchanges request)]) := by
  have cut : runCall s before call =
      ((Dialogue.ask request).bind fun reply => .done (read reply)).run s before :=
    congrArg (Dialogue.run s before) puts
  rw [cut, Dialogue.run_bind, Dialogue.run_ask sendable]
  rfl

/-- A request that cannot be sent is not exchanged, and counts as one that was lost. -/
theorem Puts.run_lost {request : Outgoing} {read : Reply → Except ε α} {call : ExceptT ε Dialogue α}
    (puts : Puts request read call) (unsendable : request.isSendable = false) (s : Surroundings)
    (before : Transcript) : runCall s before call = (read .dropped, before) := by
  have cut : runCall s before call =
      ((Dialogue.ask request).bind fun reply => .done (read reply)).run s before :=
    congrArg (Dialogue.run s before) puts
  rw [cut, Dialogue.run_bind, Dialogue.run_ask_unsendable (Bool.eq_false_iff.mp unsendable)]
  rfl

theorem Puts.runs {request : Outgoing} {read : Reply → Except ε α} {call : ExceptT ε Dialogue α}
    (puts : Puts request read call) (s : Surroundings) (before : Transcript) :
    (request.isSendable = true ∧
        ∃ reply, runCall s before call = (read reply, before.exchanged [(request, reply)])) ∨
      request.isSendable = false ∧ runCall s before call = (read .dropped, before) := by
  cases sendable : request.isSendable with
  | true => exact .inl ⟨rfl, _, puts.run_sent sendable s before⟩
  | false => exact .inr ⟨rfl, puts.run_lost sendable s before⟩

/-- What comes after the reply without a further request is part of reading it. -/
theorem Puts.followed {request : Outgoing} {read : Reply → Except ε α}
    {call : ExceptT ε Dialogue α} {next : α → ExceptT ε Dialogue β} {answer : α → Except ε β}
    (puts : Puts request read call)
    (ends : ∀ value, ExceptT.run (next value) = .done (answer value)) :
    Puts request (fun reply => (read reply).bind answer) (call >>= next) := by
  have cut : ExceptT.run (call >>= next) = (ExceptT.run call).bind (ExceptT.bindCont next) := rfl
  unfold Puts
  rw [cut, puts, Dialogue.bind_assoc]
  congr 1
  funext reply
  dsimp only [Dialogue.done_bind]
  cases read reply with
  | error fault => rfl
  | ok value => exact ends value

/-- Holds an exchange, from what is remembered and what has been asked before. -/
def runAct (s : Surroundings) (memory : σ) (before : Transcript)
    (act : ExceptT ε (StateT σ Dialogue) α) : (Except ε α × σ) × Transcript :=
  (act.run.run memory).run s before

theorem runAct_bind (act : ExceptT ε (StateT σ Dialogue) α)
    (next : α → ExceptT ε (StateT σ Dialogue) β) :
    runAct s memory before (act >>= next) =
      match runAct s memory before act with
      | ((.ok value, kept), after) => runAct s kept after (next value)
      | ((.error why, kept), after) => ((.error why, kept), after) := by
  have cut : runAct s memory before (act >>= next) = ((act.run.run memory).bind _).run s before := rfl
  rw [cut, Dialogue.run_bind]
  unfold runAct
  obtain ⟨⟨result, kept⟩, after⟩ := (act.run.run memory).run s before
  cases result <;> rfl

theorem runAct_pure (value : α) :
    runAct s memory before (pure value : ExceptT ε (StateT σ Dialogue) α) =
      ((.ok value, memory), before) := rfl

theorem runAct_get_bind (next : σ → ExceptT ε (StateT σ Dialogue) α) :
    runAct s memory before (get >>= next) = runAct s memory before (next memory) := rfl

theorem runAct_set_bind (kept : σ) (next : PUnit → ExceptT ε (StateT σ Dialogue) α) :
    runAct s memory before (set kept >>= next) = runAct s kept before (next ⟨⟩) := rfl

/-- An exchange that need not know what is remembered leaves it alone. -/
theorem runAct_mk_lift (call : ExceptT ε Dialogue α) :
    runAct s memory before (ExceptT.mk (StateT.lift call.run)) =
      (((runCall s before call).1, memory), (runCall s before call).2) := by
  have cut : runAct s memory before (ExceptT.mk (StateT.lift call.run)) =
      (call.run.bind fun outcome => .done (outcome, memory)).run s before := rfl
  rw [cut, Dialogue.run_bind]
  rfl

theorem runAct_lift (d : Dialogue α) :
    runAct s memory before (ExceptT.lift (StateT.lift d) : ExceptT ε (StateT σ Dialogue) α) =
      ((.ok (d.run s before).1, memory), (d.run s before).2) := by
  have cut : runAct s memory before
      (ExceptT.lift (StateT.lift d) : ExceptT ε (StateT σ Dialogue) α) =
      ((d.bind fun value => .done (value, memory)).bind fun outcome =>
        .done (.ok outcome.1, outcome.2)).run s before := rfl
  rw [cut, Dialogue.run_bind, Dialogue.run_bind]
  rfl

end ParishSite
