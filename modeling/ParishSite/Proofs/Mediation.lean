import ParishSite.Proofs.RoutedPaths
import ParishSite.Proofs.UrlExtension

/-! Nothing reaches the tables of the store past the gate. Visitors read with the key of the site;
everything else is sent on an admin page, with the token of the request, after the store has said
whose token it is. -/

namespace ParishSite.Service

open Backend (Access Errand)
open Web (Outgoing Request)

def AtTables (a : Access) (q : Outgoing) : Prop :=
  ∃ more pairs,
    q.url = (a.url.extended ((["rest", "v1"] ++ more).map String.toList)).withPairs pairs

def AtAccounts (a : Access) (q : Outgoing) : Prop :=
  ∃ what pairs,
    q.url = (a.url.extended (["auth", "v1", what].map String.toList)).withPairs pairs

theorem AtAccounts.not_atTables {a : Access} {q : Outgoing} (account : AtAccounts a q) :
    ¬ AtTables a q := by
  obtain ⟨what, pairs, account⟩ := account
  intro ⟨more, morePairs, table⟩
  have auth : "auth".toList = ['a', 'u', 't', 'h'] := by decide
  have rest : "rest".toList = ['r', 'e', 's', 't'] := by decide
  rw [account, List.cons_append, List.map_cons, List.map_cons (a := "rest"), auth, rest] at table
  exact Web.Url.extended_ne a.url (by decide) _ _ _ _ _ _ table

theorem bearer_filled {r : Request} {token : String} (bearer : r.bearer = .ok (some token)) :
    token ≠ "" := by
  unfold Request.bearer at bearer
  split at bearer
  · cases bearer
  · dsimp only at bearer
    split at bearer
    · split at bearer
      · cases bearer
      · next filled =>
        rw [Except.ok.injEq, Option.some.injEq] at bearer
        rw [← bearer]
        exact filled
    · cases bearer

/-- What can be said of a request that goes out while another one is handled, after the exchanges of
the same handling so far. -/
structure Mediated (site : Site) (r : Request) (earlier : History) (q : Outgoing) : Prop where
  /-- Whatever is sent goes to the store with its key, or reads the channel for a visitor, without
  any key of the store and without a token. -/
  known : (∃ a, site.store = some a ∧ q.apiKey = some a.key ∧ (AtTables a q ∨ AtAccounts a q)) ∨
    (q.apiKey = none ∧ q.bearer = none ∧ q.method = .get ∧ ¬ IsAdminPath r.path ∧
      ∃ what pairs, q = site.feed.outgoing what pairs)
  /-- A request to the tables is a read with the key of the site outside the admin pages, or is sent
  on an admin page with the token of who asks, whose password need not be changed. -/
  tables : ∀ a, site.store = some a → q.apiKey ≠ none → AtTables a q →
    ¬ IsAdminPath r.path ∧ q.method = .get ∧ q.bearer = some a.key ∨
    IsAdminPath r.path ∧ ∃ token, token ≠ "" ∧ Passed a r false token earlier ∧ q.bearer = some token
  /-- A password is changed by one page alone, with the token of who asks. -/
  password : q.method = .put → r.method = "POST" ∧
    pathParts r.path = some ["admin".toList, "password".toList] ∧
    ∃ a token, site.store = some a ∧ token ≠ "" ∧ Passed a r true token earlier ∧
      q.bearer = some token ∧
      q.url = a.url.extended (["auth", "v1", "user"].map String.toList)
  /-- Visitors write nothing. -/
  visitors : ¬ IsAdminPath r.path → q.method = .get

private theorem mediated_table {site : Site} {r : Request} {earlier : History} {a : Access}
    {errand : Errand} {token table : String} (store : site.store = some a)
    (admin : IsAdminPath r.path) (passed : Passed a r false token earlier)
    (path : errand.path = ["rest", "v1", table]) (bearer : errand.token = some token)
    (write : errand.method ≠ .put) : Mediated site r earlier (a.outgoing errand) := by
  have table : AtTables a (a.outgoing errand) := by
    refine ⟨[table], errand.pairs, ?_⟩
    rw [Access.outgoing, path]
    rfl
  have sent : (a.outgoing errand).bearer = some token := by
    rw [Access.outgoing, bearer]
    rfl
  refine ⟨.inl ⟨a, store, rfl, .inl table⟩, ?_, fun put => absurd put write,
    fun visitor => absurd admin visitor⟩
  intro b same _ _
  rw [store] at same
  cases same
  exact .inr ⟨admin, token, bearer_filled passed.bearer, passed, sent⟩

private theorem mediated_account {site : Site} {r : Request} {earlier : History} {a : Access}
    {errand : Errand} {what : String} (store : site.store = some a) (admin : IsAdminPath r.path)
    (path : errand.path = ["auth", "v1", what])
    (password : (a.outgoing errand).method = .put → r.method = "POST" ∧
      pathParts r.path = some ["admin".toList, "password".toList] ∧
      ∃ b token, site.store = some b ∧ token ≠ "" ∧ Passed b r true token earlier ∧
        (a.outgoing errand).bearer = some token ∧
        (a.outgoing errand).url = b.url.extended (["auth", "v1", "user"].map String.toList)) :
    Mediated site r earlier (a.outgoing errand) := by
  have account : AtAccounts a (a.outgoing errand) := by
    refine ⟨what, errand.pairs, ?_⟩
    rw [Access.outgoing, path]
  refine ⟨.inl ⟨a, store, rfl, .inr account⟩, ?_, password, fun visitor => absurd admin visitor⟩
  intro b same _ table
  rw [store] at same
  cases same
  exact absurd table account.not_atTables

theorem Permitted.mediated {site : Site} {r : Request} {earlier : History} {q : Outgoing}
    (permitted : Permitted site r earlier q) : Mediated site r earlier q := by
  obtain ⟨e, id, routed, sends⟩ := permitted
  cases sends with
  | @channel what pairs feed =>
    have visitor : ¬ IsAdminPath r.path := by
      rw [← routed.isAdmin_iff]
      cases e with
      | videos | videoSearch | liveVideo => exact Bool.false_ne_true
      | _ => cases feed
    refine ⟨.inr ⟨rfl, rfl, rfl, visitor, what, pairs, rfl⟩, ?_, (fun put => nomatch put), fun _ => rfl⟩
    exact fun _ _ keyed _ => absurd rfl keyed
  | @store a errand store due =>
    cases due with
    | @visit _ t q visitor same =>
      have outside : ¬ IsAdminPath r.path := by
        rw [← routed.isAdmin_iff, visitor]
        exact Bool.false_ne_true
      refine ⟨.inl ⟨a, store, rfl, .inl ⟨[q.table], q.params, rfl⟩⟩, ?_, (fun put => nomatch put),
        fun _ => rfl⟩
      intro b same _ _
      rw [store] at same
      cases same
      exact .inl ⟨outside, rfl, rfl⟩
    | account admin area method =>
      apply mediated_account store (routed.isAdmin_iff.mp admin) area
      intro put
      rw [show errand.method = .put from put] at method
      rcases method with get | post
      · cases get
      · cases post
    | read admin same passed =>
      exact mediated_table store (routed.isAdmin_iff.mp admin) passed rfl rfl fun put => nomatch put
    | add accepts passed =>
      exact mediated_table store (routed.isAdmin_iff.mp rfl) passed rfl rfl fun put => nomatch put
    | change named accepts passed =>
      exact mediated_table store (routed.isAdmin_iff.mp rfl) passed rfl rfl fun put => nomatch put
    | remove named passed =>
      exact mediated_table store (routed.isAdmin_iff.mp rfl) passed rfl rfl fun put => nomatch put
    | @password token body passed =>
      apply mediated_account store (routed.isAdmin_iff.mp rfl) rfl
      intro _
      obtain ⟨method, path⟩ := routed.changePassword
      exact ⟨method, path, a, token, store, bearer_filled passed.bearer, passed, rfl, rfl⟩

/-- Every request that goes out while another one is handled is mediated: for every request, every
memory and every answer of the store and of the channel. -/
theorem handle_mediated (site : Site) (m : Memory) (r : Request) (s : Surroundings)
    (before : Transcript) :
    ∃ new, ((handle site m r).run s before).2.exchanges = before.exchanges ++ new ∧
      ∀ earlier q reply later, new = earlier ++ (q, reply) :: later →
        Mediated site r earlier q ∧ reply = s.reply (before.exchanges ++ earlier) q := by
  obtain ⟨new, exchanges, sent⟩ := handle_sends site m r s before
  refine ⟨new, exchanges, ?_⟩
  intro earlier q reply later cut
  obtain ⟨permitted, answered⟩ := sent earlier q reply later cut
  exact ⟨permitted.mediated, answered⟩

end ParishSite.Service
