import ParishSite.Backend.Roster
import ParishSite.Feed.Client
import ParishSite.Web.Response

/-! The service as a whole: what it is told at its start, what it remembers from one request to the
next, and what a request may end in besides an answer. -/

namespace ParishSite.Service

open Web (Rejection Response)

/-- What stays the same while the service runs. -/
structure Site where
  settings : Settings
  store : Backend.Client
  feed : Feed.Client

structure Memory where
  hasLeaderColumn : Bool
  cache : Feed.Cache

/-- Why a request got no answer of its own: it could not be read, or what it asks for failed. -/
inductive Refusal
  | unreadable (why : Rejection)
  | failed (why : Failure)

def Refusal.toResponse : Refusal → Response
  | unreadable why => Response.ofRejection why
  | failed why => Response.ofFailure why

/-- Handling a request. What is remembered is kept also when the handling fails. -/
abbrev Act := ExceptT Refusal (StateT Memory Dialogue)

/-- The service at its start, unless answers of the channel are to be kept for an impossible time. -/
def start? (s : Settings) (file : Option Feed.CacheFile) : Option (Site × Memory) := do
  let ttl ← s.cacheTtl?
  some (⟨s, Backend.Client.ofSettings s, Feed.Client.ofSettings s⟩, ⟨true, Feed.Cache.new ttl file⟩)

namespace Act

def fail (why : Failure) : Act α := throw (.failed why)

def reading (r : Except Rejection α) : Act α :=
  match r with
  | .ok a => return a
  | .error why => throw (.unreadable why)

def checking (r : Except Failure α) : Act α :=
  match r with
  | .ok a => return a
  | .error why => fail why

def now : Act Time.Instant := ExceptT.lift (StateT.lift Dialogue.now)

def outcome (call : Backend.Call α) : Act (Except Backend.Fault α) :=
  ExceptT.lift (StateT.lift call.run)

def store (call : Backend.Call α) : Act α := do
  match ← outcome call with
  | .ok a => return a
  | .error fault => fail fault.toFailure

/-- An exchange about teams, which may change what is known about their table. -/
def roster (call : Backend.RosterCall α) : Act α := do
  let m ← get
  let (r, hasLeaderColumn) ← ExceptT.lift (StateT.lift (call.run.run m.hasLeaderColumn))
  set { m with hasLeaderColumn }
  match r with
  | .ok a => return a
  | .error fault => fail fault.toFailure

/-- An exchange about videos, which may change what is kept of them. -/
def feed (call : Feed.CachedCall α) : Act α := do
  let m ← get
  let (r, cache) ← ExceptT.lift (StateT.lift (call.run.run m.cache))
  set { m with cache }
  match r with
  | .ok a => return a
  | .error fault => fail fault.toFailure

end Act
end ParishSite.Service
