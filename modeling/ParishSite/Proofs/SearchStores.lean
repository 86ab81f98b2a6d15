import ParishSite.Proofs.SearchRecency

/-! What is lost from the cache of searches, on any clock: it may stand still, run backwards and have
leap seconds. No more than 256 answers are ever held. A store puts one answer in place and leaves all
others alone, but for stale ones and, where there is no room, for one that no other is older than. -/

namespace ParishSite.Feed
open Time (Instant Duration)

namespace Cache

/-- Every key is held once, and no more than 256 of them. -/
structure Bounded (c : Cache) : Prop where
  distinct : (keys c.searches).Nodup
  few : c.searches.length ≤ maxSearches

theorem Bounded.new (ttl : Duration) (file : Option CacheFile) : (Cache.new ttl file).Bounded :=
  ⟨List.nodup_nil, Nat.zero_le _⟩

theorem Bounded.without {c : Cache} (bounded : c.Bounded) (key : String) :
    Bounded { c with searches := without key c.searches } :=
  ⟨bounded.distinct.sublist (keys_without_sublist key c.searches),
    Nat.le_trans (List.length_filter_le _ _) bounded.few⟩

theorem Bounded.apply {c : Cache} (bounded : c.Bounded) (step : SearchStep) :
    (step.apply c).Bounded := by
  cases step with
  | store key videos nextPageToken now =>
    exact ⟨storeSearch_distinct bounded.distinct key videos nextPageToken now,
      storeSearch_bounded bounded.few key videos nextPageToken now⟩
  | search key now =>
    unfold SearchStep.apply Cache.search
    dsimp only
    split
    · exact bounded
    · split
      · exact bounded.without key
      · exact bounded

theorem Bounded.run {c : Cache} (bounded : c.Bounded) (steps : List SearchStep) :
    (SearchStep.run c steps).Bounded := by
  induction steps generalizing c with
  | nil => exact bounded
  | cons step steps ih => exact ih (bounded.apply step)

theorem searchEntry_eq_none {c : Cache} (distinct : (keys c.searches).Nodup) {key : String}
    (absent : c.searchEntry? key = none) (e : CacheEntry) : (key, e) ∉ c.searches := by
  intro held
  rw [(searchEntry_some_iff distinct).mpr held] at absent
  cases absent

/-- An answer is the one that has to go when another comes in: 256 answers are young, none of them is
under the new key, and none of them is older. -/
structure GivesWay (c : Cache) (key : String) (now : Instant) (other : String) (e : CacheEntry) :
    Prop where
  full : (c.fresh now).length = maxSearches
  unknown : key ∉ keys (c.fresh now)
  young : (other, e) ∈ c.fresh now
  oldest : ∀ k f, (k, f) ∈ c.fresh now → f.timestamp.isBefore e.timestamp = false

theorem Evicts.givesWay {c : Cache} (bounded : c.Bounded) {key other : String} {now : Instant}
    {e : CacheEntry} (evicts : c.Evicts key now other) (held : (other, e) ∈ c.searches) :
    c.GivesWay key now other e := by
  obtain ⟨full, unknown, found⟩ := evicts
  obtain ⟨f, member, oldest⟩ := oldestKey?_oldest found
  have same := entry_unique bounded.distinct (mem_fresh.mp member).1 held
  subst same
  have few : (c.fresh now).length ≤ maxSearches :=
    Nat.le_trans (List.length_filter_le _ _) bounded.few
  exact ⟨Nat.le_antisymm few full, unknown, member, oldest⟩

/-- What one store does to the answers under all keys. -/
structure Stored (c : Cache) (key : String) (videos : List Video) (nextPageToken : Option String)
    (now : Instant) (after : Cache) : Prop where
  bound : after.searchEntry? key = some ⟨now, videos, nextPageToken⟩
  kept : ∀ other e, other ≠ key → after.searchEntry? other = some e →
    c.searchEntry? other = some e
  gone : ∀ other e, other ≠ key → c.searchEntry? other = some e →
    after.searchEntry? other = none → c.ttl < e.age now ∨ c.GivesWay key now other e
  single : ∀ first e second f, first ≠ key → second ≠ key →
    c.searchEntry? first = some e → after.searchEntry? first = none → e.age now ≤ c.ttl →
    c.searchEntry? second = some f → after.searchEntry? second = none → f.age now ≤ c.ttl →
    first = second

section
variable {c : Cache} {key : String} {videos : List Video} {nextPageToken : Option String}
  {now : Instant}

/-- A young answer that a store takes away is evicted. -/
theorem Bounded.evicts (bounded : c.Bounded) {other : String} {e : CacheEntry}
    (apart : other ≠ key) (held : c.searchEntry? other = some e)
    (gone : searchEntry? (c.storeSearch key videos nextPageToken now) other = none)
    (young : e.age now ≤ c.ttl) : c.Evicts key now other := by
  have after := storeSearch_distinct bounded.distinct key videos nextPageToken now
  have member := (searchEntry_some_iff bounded.distinct).mp held
  by_contra stays
  apply searchEntry_eq_none after gone e
  exact (mem_storeSearch bounded.distinct).mpr (.inr ⟨apart, ⟨member, young⟩, stays⟩)

theorem Bounded.stored (bounded : c.Bounded) (key : String) (videos : List Video)
    (nextPageToken : Option String) (now : Instant) :
    Stored c key videos nextPageToken now (c.storeSearch key videos nextPageToken now) := by
  have after := storeSearch_distinct bounded.distinct key videos nextPageToken now
  constructor
  case bound =>
    apply (searchEntry_some_iff after).mpr
    exact (mem_storeSearch bounded.distinct).mpr (.inl ⟨rfl, rfl⟩)
  case kept =>
    intro other e apart held
    apply (searchEntry_some_iff bounded.distinct).mpr
    rcases (mem_storeSearch bounded.distinct).mp ((searchEntry_some_iff after).mp held) with
      ⟨same, -⟩ | ⟨-, ⟨before, -⟩, -⟩
    · exact absurd same apart
    · exact before
  case gone =>
    intro other e apart held gone
    by_cases young : e.age now ≤ c.ttl
    · have member := (searchEntry_some_iff bounded.distinct).mp held
      exact .inr ((bounded.evicts apart held gone young).givesWay bounded member)
    · exact .inl (Int.not_le.mp young)
  case single =>
    intro first e second f apart apart' held gone young held' gone' young'
    obtain ⟨-, -, found⟩ := bounded.evicts apart held gone young
    obtain ⟨-, -, found'⟩ := bounded.evicts apart' held' gone' young'
    exact Option.some.inj (found.symm.trans found')

end

/-- Whatever is stored and searched for, at whatever times, the cache holds no key twice and no more
than 256 of them. A store binds its key, adds and changes nothing else, and loses only stale answers
and at most one other, for which there is no room and than which no young answer is older. -/
theorem store_disturbs_nothing_else (ttl : Duration) (file : Option CacheFile)
    (steps : List SearchStep) :
    let c := SearchStep.run (Cache.new ttl file) steps
    (keys c.searches).Nodup ∧ c.searches.length ≤ 256 ∧
      ∀ key videos nextPageToken now,
        Stored c key videos nextPageToken now (c.storeSearch key videos nextPageToken now) := by
  have bounded := (Bounded.new ttl file).run steps
  exact ⟨bounded.distinct, bounded.few, bounded.stored⟩

end Cache
end ParishSite.Feed
