import Mathlib.Data.List.Basic
import ParishSite.Dialogue

/-! What a dialogue may ask, and in which states it ends, under every answer of its surroundings. What
may be asked next depends on the exchanges before it, so an order of requests is a contract too. -/

namespace ParishSite

open Web (Outgoing Reply)

/-- Requests and the replies to them, in their order. -/
abbrev History := List (Outgoing × Reply)

variable {α β ε σ : Type} {allowed : History → Outgoing → Prop}

namespace Dialogue

/-- Every request is allowed after the exchanges before it, and the dialogue ends well, whatever the
replies, the clock and the draws are. -/
def Keeps (allowed : History → Outgoing → Prop) (ends : History → α → Prop) :
    Dialogue α → History → Prop
  | done value, past => ends past value
  | send request next, past =>
    allowed past request ∧ ∀ reply, (next reply).Keeps allowed ends (past ++ [(request, reply)])
  | clock next, past => ∀ now, (next now).Keeps allowed ends past
  | draw next, past => ∀ suffix, (next suffix).Keeps allowed ends past

variable {ends : History → α → Prop} {past : History}

theorem Keeps.bind {mid : History → α → Prop} {ends : History → β → Prop} {d : Dialogue α}
    {next : α → Dialogue β} (first : d.Keeps allowed mid past)
    (rest : ∀ later value, mid later value → (next value).Keeps allowed ends later) :
    (d.bind next).Keeps allowed ends past := by
  induction d generalizing past with
  | done value => exact rest past value first
  | send request resume ih => exact ⟨first.1, fun reply => ih reply (first.2 reply)⟩
  | clock resume ih => exact fun now => ih now (first now)
  | draw resume ih => exact fun suffix => ih suffix (first suffix)

theorem Keeps.weaken {other : History → Outgoing → Prop} {results : History → α → Prop}
    {d : Dialogue α} (keeps : d.Keeps allowed ends past)
    (requests : ∀ later request, allowed later request → other later request)
    (implies : ∀ later value, ends later value → results later value) :
    d.Keeps other results past := by
  induction d generalizing past with
  | done value => exact implies past value keeps
  | send request resume ih =>
    exact ⟨requests past request keeps.1, fun reply => ih reply (keeps.2 reply)⟩
  | clock resume ih => exact fun now => ih now (keeps now)
  | draw resume ih => exact fun suffix => ih suffix (keeps suffix)

theorem Keeps.grown {d : Dialogue α} (keeps : d.Keeps allowed ends past) :
    d.Keeps allowed (fun later value => past <+: later ∧ ends later value) past := by
  have longer : ∀ before, before <+: past →
      d.Keeps allowed (fun later value => before <+: later ∧ ends later value) past := by
    intro before
    induction d generalizing past with
    | done value => exact fun growth => ⟨growth, keeps⟩
    | send request resume ih =>
      intro growth
      refine ⟨keeps.1, fun reply => ih reply (keeps.2 reply) ?_⟩
      exact growth.trans (List.prefix_append _ _)
    | clock resume ih => exact fun growth now => ih now (keeps now) growth
    | draw resume ih => exact fun growth suffix => ih suffix (keeps suffix) growth
  exact longer past List.prefix_rfl

/-- A request that cannot be sent need not be allowed. -/
theorem Keeps.ask {ends : History → Reply → Prop} {request : Outgoing}
    (allows : allowed past request) (answered : ∀ reply, ends (past ++ [(request, reply)]) reply)
    (lost : ends past .dropped) : (ask request).Keeps allowed ends past := by
  unfold Dialogue.ask
  split
  · exact ⟨allows, answered⟩
  · exact lost

/-- What the surroundings get to see of a dialogue that keeps to a contract: after what was exchanged
before come only allowed requests, each with the reply that the surroundings give, and then the end. -/
theorem Keeps.run {d : Dialogue α} (keeps : d.Keeps allowed ends past) (s : Surroundings)
    (before : Transcript) :
    ∃ new, (d.run s before).2.exchanges = before.exchanges ++ new ∧
      ends (past ++ new) (d.run s before).1 ∧
      ∀ earlier request reply later, new = earlier ++ (request, reply) :: later →
        allowed (past ++ earlier) request ∧
          reply = s.reply (before.exchanges ++ earlier) request := by
  induction d generalizing past before with
  | done value =>
    refine ⟨[], (List.append_nil _).symm, by rw [List.append_nil]; exact keeps, ?_⟩
    intro earlier request reply later cut
    exact absurd cut.symm (List.append_ne_nil_of_right_ne_nil _ (List.cons_ne_nil _ _))
  | send request resume ih =>
    let reply := s.reply before.exchanges request
    obtain ⟨new, exchanges, ended, sent⟩ := ih reply (keeps.2 reply)
      { before with exchanges := before.exchanges ++ [(request, reply)] }
    refine ⟨(request, reply) :: new, ?_, ?_, ?_⟩
    · rw [← List.singleton_append, ← List.append_assoc]
      exact exchanges
    · rw [← List.singleton_append, ← List.append_assoc]
      exact ended
    · intro earlier asked answer later cut
      cases earlier with
      | nil =>
        obtain ⟨same, -⟩ := List.cons.inj cut
        cases same
        rw [List.append_nil, List.append_nil]
        exact ⟨keeps.1, rfl⟩
      | cons first earlier =>
        obtain ⟨same, rest⟩ := List.cons.inj cut
        subst same
        have found := sent earlier asked answer later rest
        rw [List.append_assoc, List.append_assoc] at found
        exact found
  | clock resume ih => exact ih _ (keeps _) { before with looks := before.looks + 1 }
  | draw resume ih => exact ih _ (keeps _) { before with draws := before.draws + 1 }

end Dialogue

/-- An exchange asks only what is allowed. If it succeeds, it ends well. -/
def Asks (allowed : History → Outgoing → Prop) (ends : History → α → Prop)
    (call : ExceptT ε Dialogue α) (past : History) : Prop :=
  call.run.Keeps allowed (fun later outcome => ∀ value, outcome = .ok value → ends later value) past

namespace Asks

variable {past : History}

theorem pure {ends : History → α → Prop} {value : α} (ended : ends past value) :
    Asks allowed ends (Pure.pure value : ExceptT ε Dialogue α) past := by
  intro other same
  cases same
  exact ended

theorem throw {ends : History → α → Prop} (why : ε) :
    Asks allowed ends (MonadExcept.throw why : ExceptT ε Dialogue α) past :=
  fun _ same => nomatch same

theorem lift {ends : History → α → Prop} {d : Dialogue α} (keeps : d.Keeps allowed ends past) :
    Asks allowed ends (ExceptT.lift d : ExceptT ε Dialogue α) past := by
  refine Dialogue.Keeps.bind keeps ?_
  intro later value ended other same
  cases same
  exact ended

theorem forget {ends : History → α → Prop} {call : ExceptT ε Dialogue α}
    (asks : Asks allowed ends call past) : Asks allowed (fun _ _ => True) call past :=
  Dialogue.Keeps.weaken asks (fun _ _ allows => allows) fun _ _ _ _ _ => trivial

theorem bind {mid : History → α → Prop} {ends : History → β → Prop} {call : ExceptT ε Dialogue α}
    {next : α → ExceptT ε Dialogue β} (first : Asks allowed mid call past)
    (rest : ∀ later value, past <+: later → mid later value →
      Asks allowed ends (next value) later) : Asks allowed ends (call >>= next) past := by
  refine Dialogue.Keeps.bind first.grown ?_
  intro later outcome ⟨growth, ended⟩
  cases outcome with
  | error why => exact fun _ same => nomatch same
  | ok value => exact rest later value growth (ended value rfl)

end Asks

/-- An exchange asks only what is allowed. If it succeeds, it ends well with what it remembers. -/
def Holds (allowed : History → Outgoing → Prop) (ends : σ → History → α → Prop)
    (act : ExceptT ε (StateT σ Dialogue) α) (memory : σ) (past : History) : Prop :=
  (act.run.run memory).Keeps allowed
    (fun later outcome => ∀ value, outcome.1 = .ok value → ends outcome.2 later value) past

namespace Holds

variable {memory : σ} {past : History}

theorem pure {ends : σ → History → α → Prop} {value : α} (ended : ends memory past value) :
    Holds allowed ends (Pure.pure value : ExceptT ε (StateT σ Dialogue) α) memory past := by
  intro other same
  cases same
  exact ended

theorem throw {ends : σ → History → α → Prop} (why : ε) :
    Holds allowed ends (MonadExcept.throw why : ExceptT ε (StateT σ Dialogue) α) memory past :=
  fun _ same => nomatch same

theorem get_bind {ends : σ → History → β → Prop} {next : σ → ExceptT ε (StateT σ Dialogue) β}
    (holds : Holds allowed ends (next memory) memory past) :
    Holds allowed ends (MonadState.get >>= next) memory past := holds

theorem set_bind {ends : σ → History → β → Prop} {kept : σ}
    {next : PUnit → ExceptT ε (StateT σ Dialogue) β}
    (holds : Holds allowed ends (next ⟨⟩) kept past) :
    Holds allowed ends (MonadStateOf.set kept >>= next) memory past := holds

theorem lift {ends : σ → History → α → Prop} {d : Dialogue α}
    (keeps : d.Keeps allowed (ends memory) past) :
    Holds allowed ends (ExceptT.lift (StateT.lift d) : ExceptT ε (StateT σ Dialogue) α)
      memory past := by
  have whole : (StateT.lift d memory).Keeps allowed
      (fun later outcome => ends memory later outcome.1 ∧ outcome.2 = memory) past :=
    Dialogue.Keeps.bind keeps fun _ _ ended => ⟨ended, rfl⟩
  refine Dialogue.Keeps.bind whole ?_
  intro later outcome ended other same
  cases same
  rw [ended.2]
  exact ended.1

theorem forget {ends : σ → History → α → Prop} {act : ExceptT ε (StateT σ Dialogue) α}
    (holds : Holds allowed ends act memory past) :
    Holds allowed (fun _ _ _ => True) act memory past :=
  Dialogue.Keeps.weaken holds (fun _ _ allows => allows) fun _ _ _ _ _ => trivial

theorem bind {mid : σ → History → α → Prop} {ends : σ → History → β → Prop}
    {act : ExceptT ε (StateT σ Dialogue) α} {next : α → ExceptT ε (StateT σ Dialogue) β}
    (first : Holds allowed mid act memory past)
    (rest : ∀ kept later value, past <+: later → mid kept later value →
      Holds allowed ends (next value) kept later) : Holds allowed ends (act >>= next) memory past := by
  refine Dialogue.Keeps.bind first.grown ?_
  intro later outcome ⟨growth, ended⟩
  obtain ⟨result, kept⟩ := outcome
  cases result with
  | error why => exact fun _ same => nomatch same
  | ok value => exact rest kept later value growth (ended value rfl)

end Holds
end ParishSite
