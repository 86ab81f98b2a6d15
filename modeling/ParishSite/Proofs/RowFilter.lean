import ParishSite.Proofs.HandlingRuns
import ParishSite.Proofs.RoutedPaths
import ParishSite.Proofs.UrlExtension

/-! A write reaches the row that its path names and no other. What is sent to a table stands behind the
path of the store's address, and its query is read back as the conditions that were meant, whatever
characters are in them. -/

namespace ParishSite.Backend

open Service (Memory Routed Site handle)
open Web (Outgoing Reply Request Url)

/-- A request to a table behind an address, for the rows that meet some conditions. -/
structure Reaches (base : Url) (t : Table) (conditions : List (String × String)) (q : Outgoing) :
    Prop where
  scheme : q.url.scheme = base.scheme
  authority : q.url.authority = base.authority
  path : q.url.path.toText = Url.withoutSlashes base.path.toText ++ ("/rest/v1/" ++ t.name).toList
  query : ∃ text, q.url.query = some text ∧ Web.Form.decode text = conditions
  fragment : q.url.fragment = none

theorem outgoing_reaches {base : Url} {key : String} {t : Table} {e : Errand}
    (plain : base.path.IsPlain) (noQuery : base.query = none)
    (noFragment : base.fragment = none) (path : e.path = Client.tablePath t.name)
    (filtered : e.pairs ≠ []) : Reaches base t e.pairs (Access.outgoing ⟨base, key⟩ e) := by
  obtain ⟨same, text⟩ := Url.extended_spec plain noQuery noFragment (e.path.map String.toList)
  have written : (Access.outgoing ⟨base, key⟩ e).url =
      { base with
        path := (base.extended (e.path.map String.toList)).path
        query := some (Web.Form.encode e.pairs) } := by
    change (base.extended _).withPairs _ = _
    rw [same, Url.withPairs, if_neg (by rwa [List.isEmpty_iff])]
    dsimp only
    rw [noQuery]
  rw [path] at text
  refine ⟨?_, ?_, ?_, ?_, ?_⟩
  · rw [written]
  · rw [written]
  · rw [written, path]
    dsimp only
    rw [text]
    congr 1
    rw [String.toList_append]
    simp [Client.tablePath, Web.Path.toText]
  · exact ⟨_, by rw [written], Web.Form.decode_encode e.pairs⟩
  · rw [written]
    exact noFragment

/-- A call sends one request and nothing else; a request that cannot be sent is not sent. -/
def SendsOnly (call : Call α) (q : Outgoing) : Prop :=
  ∀ s before, ((ExceptT.run call).run s before).2.requests =
    before.requests ++ if q.isSendable then [q] else []

private theorem ask_requests (q : Outgoing) (s : Surroundings) (before : Transcript) :
    ((Dialogue.ask q).run s before).2.requests =
      before.requests ++ if q.isSendable then [q] else [] := by
  unfold Dialogue.ask Transcript.requests
  split
  · exact List.map_append
  · exact (List.append_nil _).symm

theorem fetch_sends (a : Access) (e : Errand) (d : Json.Decoder α) :
    SendsOnly (Client.fetch (some a) e d) (a.outgoing e) := by
  intro s before
  rw [Client.fetch_eq, Dialogue.run_bind]
  exact ask_requests _ s before

theorem SendsOnly.map {call : Call α} {q : Outgoing} (sends : SendsOnly call q) (f : α → β) :
    SendsOnly (do return f (← call)) q := by
  intro s before
  have cut : ExceptT.run (do return f (← call) : Call β) =
      (ExceptT.run call).bind (ExceptT.bindCont fun value => pure (f value)) := rfl
  rw [cut, Dialogue.run_bind, ← sends s before]
  cases ((ExceptT.run call).run s before).1 <;> rfl

end ParishSite.Backend

namespace ParishSite.Service

open Backend (Access Client Errand Query Reaches SendsOnly Table)
open Web (Outgoing Request Url)

/-- A request that changes or removes a row is sent while one for the page of that row is handled, and
its errand is about that row. -/
theorem Permitted.write_errand {site : Site} {r : Request} {past : History} {q : Outgoing} {a : Access}
    (permitted : Permitted site r past q) (store : site.store = some a)
    (write : q.method = .patch ∨ q.method = .delete) :
    ∃ (t : Table) (id : List Char) (name : String) (errand : Errand),
      (q.method = .patch ∧ r.method = "PUT" ∨ q.method = .delete ∧ r.method = "DELETE") ∧
      pathParts r.path = some ["admin".toList, resource t, id] ∧
      Request.pathText "id" id = .ok name ∧ q = a.outgoing errand ∧
      errand.path = Client.tablePath t.name ∧ errand.pairs = Client.rowPairs name := by
  obtain ⟨e, id, routed, sends⟩ := permitted
  cases sends with
  | channel _ => rcases write with write | write <;> cases write
  | @store _ errand known due =>
    rw [store] at known
    cases known
    cases due with
    | visit | read | add | password => rcases write with write | write <;> cases write
    | account _ _ method =>
      change errand.method = _ ∨ errand.method = _ at write
      rcases method with same | same <;> rw [same] at write <;> rcases write with no | no <;> cases no
    | @change t name row token named _ _ =>
      obtain ⟨method, path⟩ := routed.update
      exact ⟨t, id, name, _, .inl ⟨rfl, method⟩, path, named, rfl, rfl, rfl⟩
    | @remove t name token named _ =>
      obtain ⟨method, path⟩ := routed.remove
      exact ⟨t, id, name, _, .inr ⟨rfl, method⟩, path, named, rfl, rfl, rfl⟩

/-- A write hits the row that is named and no other, and a read asks what its query says. -/
theorem writes_reach_named_row {text : String} {base : Url} (read : Url.readString text = .ok base)
    (noQuery : base.query = none) (noFragment : base.fragment = none) (key : String) :
    (∀ (t : Table) (id token : String) (row : List (String × Json)) (α : Type) (d : Json.Decoder α),
      ∃ q, SendsOnly (Client.update (some ⟨base, key⟩) t.name id row d token) q ∧
        q.method = .patch ∧ Reaches base t [("id", "eq." ++ id)] q) ∧
    (∀ (t : Table) (id token : String),
      ∃ q, SendsOnly (Client.delete (some ⟨base, key⟩) t.name id token) q ∧
        q.method = .delete ∧ Reaches base t [("id", "eq." ++ id)] q) ∧
    (∀ (t : Table) (query : Query) (token : Option String) (α : Type) (d : Json.Decoder α),
      query.table = t.name →
      ∃ q, SendsOnly (Client.select (some ⟨base, key⟩) query d token) q ∧
        q.method = .get ∧ Reaches base t query.params q) ∧
    ∀ (site : Site) (m : Memory) (r : Request) (s : Surroundings) (before : Transcript),
      site.store = some ⟨base, key⟩ →
      ∃ new, ((handle site m r).run s before).2.exchanges = before.exchanges ++ new ∧
        ∀ q reply, (q, reply) ∈ new → q.method = .patch ∨ q.method = .delete →
          ∃ (t : Table) (id : List Char) (name : String),
            (q.method = .patch ∧ r.method = "PUT" ∨ q.method = .delete ∧ r.method = "DELETE") ∧
            pathParts r.path = some ["admin".toList, resource t, id] ∧
            Request.pathText "id" id = .ok name ∧ Reaches base t [("id", "eq." ++ name)] q := by
  have plain : base.path.IsPlain := Url.read_plain read
  have reaches {t : Table} {e : Errand} (path : e.path = Client.tablePath t.name)
      (filtered : e.pairs ≠ []) : Reaches base t e.pairs (Access.outgoing ⟨base, key⟩ e) :=
    Backend.outgoing_reaches plain noQuery noFragment path filtered
  refine ⟨?_, ?_, ?_, ?_⟩
  · intro t id token row α d
    refine ⟨Access.outgoing ⟨base, key⟩ (.changing t.name id row token), ?_, rfl,
      reaches (e := .changing t.name id row token) rfl (List.cons_ne_nil _ _)⟩
    exact (Backend.fetch_sends _ _ _).map List.head?
  · intro t id token
    refine ⟨Access.outgoing ⟨base, key⟩ (.removing t.name id token), ?_, rfl,
      reaches (e := .removing t.name id token) rfl (List.cons_ne_nil _ _)⟩
    exact (Backend.fetch_sends _ _ _).map fun rows : List Json => !rows.isEmpty
  · intro t query token α d same
    exact ⟨Access.outgoing ⟨base, key⟩ (.reading query token), Backend.fetch_sends _ _ _, rfl,
      reaches (e := .reading query token) (congrArg Client.tablePath same) (List.cons_ne_nil _ _)⟩
  · intro site m r s before store
    obtain ⟨new, exchanges, sent⟩ := handle_sends site m r s before
    refine ⟨new, exchanges, ?_⟩
    intro q reply member write
    obtain ⟨earlier, later, cut⟩ := List.append_of_mem member
    obtain ⟨t, id, name, errand, method, path, named, rfl, place, row⟩ :=
      (sent earlier q reply later cut).1.write_errand store write
    refine ⟨t, id, name, method, path, named, ?_⟩
    have reached := reaches place (by rw [row]; exact List.cons_ne_nil _ _)
    rw [row] at reached
    exact reached

private def slashedBase : Url :=
  ⟨"https".toList, some ⟨[], "db.example".toList, none⟩, .segments ["base".toList, [], []], none, none⟩

/-- A row whose id looks like a second condition is still the only one that is removed. -/
theorem removal_reaches_strange_row :
    Url.readString "https://db.example/base//" = .ok slashedBase ∧
      ∃ q, SendsOnly (Client.delete (some ⟨slashedBase, "key"⟩) "events" "1&id=neq.1" "token") q ∧
        q.method = .delete ∧ Reaches slashedBase .events [("id", "eq.1&id=neq.1")] q := by
  have read : Url.readString "https://db.example/base//" = .ok slashedBase := by decide
  exact ⟨read, (writes_reach_named_row read rfl rfl "key").2.1 .events "1&id=neq.1" "token"⟩

end ParishSite.Service
