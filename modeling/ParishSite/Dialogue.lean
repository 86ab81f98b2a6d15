import ParishSite.Content.Slug
import ParishSite.Time.Instant
import ParishSite.Web.Exchange

/-! What a computation asks of its surroundings: requests to other services, looks at the clock and
random draws, one after another. A dialogue says what is asked next for every possible answer, so
statements about it hold whatever the surroundings do. -/

namespace ParishSite

open Web (Outgoing Reply)

inductive Dialogue (α : Type)
  | done (value : α)
  | send (request : Outgoing) (next : Reply → Dialogue α)
  | clock (next : Time.Instant → Dialogue α)
  | draw (next : KeySuffix → Dialogue α)

namespace Dialogue

def bind (d : Dialogue α) (next : α → Dialogue β) : Dialogue β :=
  match d with
  | done value => next value
  | send request rest => send request fun reply => (rest reply).bind next
  | clock rest => clock fun now => (rest now).bind next
  | draw rest => draw fun suffix => (rest suffix).bind next

instance : Monad Dialogue where
  pure := done
  bind := bind

@[simp] theorem done_bind (value : α) (next : α → Dialogue β) :
    (done value).bind next = next value := rfl

theorem bind_assoc (d : Dialogue α) (first : α → Dialogue β) (second : β → Dialogue γ) :
    (d.bind first).bind second = d.bind fun value => (first value).bind second := by
  induction d with
  | done value => rfl
  | send request rest ih => simp [bind, ih]
  | clock rest ih => simp [bind, ih]
  | draw rest ih => simp [bind, ih]

/-- Sends a request. One that cannot be sent is lost without being asked. -/
def ask (request : Outgoing) : Dialogue Reply :=
  if request.isSendable then send request done else done .dropped

def now : Dialogue Time.Instant := clock done

def keySuffix : Dialogue KeySuffix := draw done

end Dialogue

/-- The answers that the world gives, which may depend on everything before. -/
structure Surroundings where
  reply : List (Outgoing × Reply) → Outgoing → Reply
  clock : Nat → Time.Instant
  draw : Nat → KeySuffix

structure Transcript where
  exchanges : List (Outgoing × Reply)
  looks : Nat
  draws : Nat

namespace Transcript

def empty : Transcript := ⟨[], 0, 0⟩

def requests (t : Transcript) : List Outgoing := t.exchanges.map (·.1)

end Transcript

namespace Dialogue

/-- Holds a dialogue with the surroundings, after what has been asked before. -/
def run (s : Surroundings) (before : Transcript) : Dialogue α → α × Transcript
  | done value => (value, before)
  | send request next =>
    let reply := s.reply before.exchanges request
    (next reply).run s { before with exchanges := before.exchanges ++ [(request, reply)] }
  | clock next => (next (s.clock before.looks)).run s { before with looks := before.looks + 1 }
  | draw next => (next (s.draw before.draws)).run s { before with draws := before.draws + 1 }

end Dialogue
end ParishSite
