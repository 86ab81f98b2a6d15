import ParishSite.Proofs.CacheSearches
import ParishSite.Proofs.ChannelCalls
import ParishSite.Proofs.ChannelReplies

/-! Where the pages of the feed come from, over any run of calls that share one cache in memory. What
is kept in a place of the cache is the page of the last call that asked for it, and a call that fails
leaves every page that has not expired. -/

namespace ParishSite.Feed

open Time (Instant Duration)

inductive Slot
  | latest
  | search (key : String)
deriving DecidableEq

namespace Slot

def look : Slot → Instant → Cache → Option CacheEntry × Cache
  | latest, now, cache => cache.latest now
  | search key, now, cache => cache.search key now

def keep : Slot → VideoPage → Instant → Cache → Cache
  | latest, page, now, cache => cache.storeLatest page.videos page.nextPageToken now
  | search key, page, now, cache => cache.storeSearch key page.videos page.nextPageToken now

/-- What is held there, whatever its age. -/
def entry? : Slot → Cache → Option CacheEntry
  | latest, cache => cache.memory
  | search key, cache => cache.searchEntry? key

variable {slot other : Slot} {cache kept : Cache} {now : Instant} {e : CacheEntry}

theorem look_some (inMemory : cache.file = none) (found : slot.look now cache = (some e, kept)) :
    slot.entry? cache = some e ∧ e.age now ≤ cache.ttl ∧ kept = cache := by
  cases slot with
  | latest =>
    simp only [look, Cache.latest, Cache.saved?, inMemory, Option.bind_none,
      Option.filter_none] at found
    cases held : cache.remembered? now with
    | none =>
      rw [held] at found
      cases found
    | some entry =>
      rw [held] at found
      cases found
      obtain ⟨memory, young⟩ := Option.filter_eq_some_iff.mp held
      exact ⟨memory, Int.le_of_lt (of_decide_eq_true young), rfl⟩
  | search key =>
    simp only [look, Cache.search] at found
    cases held : cache.searchEntry? key with
    | none =>
      rw [held] at found
      cases found
    | some entry =>
      rw [held] at found
      dsimp only at found
      split at found
      · cases found
      · next young =>
        cases found
        exact ⟨held, Int.not_lt.mp young, rfl⟩

theorem look_none (inMemory : cache.file = none) (vain : slot.look now cache = (none, kept)) :
    kept = cache ∨ ∃ key old, slot = search key ∧ cache.searchEntry? key = some old ∧
      cache.ttl < old.age now ∧
      kept = { cache with searches := Cache.without key cache.searches } := by
  cases slot with
  | latest =>
    simp only [look, Cache.latest, Cache.saved?, inMemory, Option.bind_none,
      Option.filter_none] at vain
    split at vain
    · cases vain
    · cases vain
      exact .inl rfl
  | search key =>
    simp only [look, Cache.search] at vain
    cases held : cache.searchEntry? key with
    | none =>
      rw [held] at vain
      cases vain
      exact .inl rfl
    | some old =>
      rw [held] at vain
      dsimp only at vain
      split at vain
      · next stale =>
        cases vain
        exact .inr ⟨key, old, rfl, held, stale, rfl⟩
      · cases vain

end Slot

/-- A cache that keeps its pages in memory alone, and every answer to a search once. -/
structure Cache.InMemory (ttl : Duration) (cache : Cache) : Prop where
  ttl : cache.ttl = ttl
  file : cache.file = none
  distinct : (Cache.keys cache.searches).Nodup

namespace Cache.InMemory

variable {ttl : Duration} {cache kept : Cache} {slot other : Slot} {now : Instant} {e : CacheEntry}
  {page : VideoPage}

theorem look (inMemory : cache.InMemory ttl) (vain : slot.look now cache = (none, kept)) :
    kept.InMemory ttl := by
  rcases slot.look_none inMemory.file vain with rfl | ⟨key, old, -, -, -, rfl⟩
  · exact inMemory
  · exact ⟨inMemory.ttl, inMemory.file,
      inMemory.distinct.sublist (Cache.keys_without_sublist key cache.searches)⟩

theorem entry?_look (inMemory : cache.InMemory ttl) (vain : slot.look now cache = (none, kept))
    (held : other.entry? kept = some e) : other.entry? cache = some e := by
  have distinct := (inMemory.look vain).distinct
  rcases slot.look_none inMemory.file vain with rfl | ⟨key, old, -, -, -, rfl⟩
  · exact held
  · cases other with
    | latest => exact held
    | search k =>
      have member := (Cache.searchEntry_some_iff distinct).mp held
      exact (Cache.searchEntry_some_iff inMemory.distinct).mpr (Cache.mem_without.mp member).1

theorem keep (inMemory : cache.InMemory ttl) (slot : Slot) (page : VideoPage) (now : Instant) :
    (slot.keep page now cache).InMemory ttl := by
  cases slot with
  | latest =>
    refine ⟨inMemory.ttl, ?_, inMemory.distinct⟩
    simp [Slot.keep, Cache.storeLatest, inMemory.file]
  | search key =>
    exact ⟨inMemory.ttl, inMemory.file, Cache.storeSearch_distinct inMemory.distinct _ _ _ _⟩

/-- A page that is kept takes the place of what was held there, and of nothing else. -/
theorem entry?_keep (inMemory : cache.InMemory ttl)
    (held : other.entry? (slot.keep page now cache) = some e) :
    other = slot ∧ e.timestamp = now ∧ e.page = page ∨ other ≠ slot ∧ other.entry? cache = some e := by
  cases slot with
  | latest =>
    cases other with
    | latest =>
      cases held
      exact .inl ⟨rfl, rfl, rfl⟩
    | search key => exact .inr ⟨by simp, held⟩
  | search key =>
    cases other with
    | latest => exact .inr ⟨by simp, held⟩
    | search k =>
      have distinct := (inMemory.keep (.search key) page now).distinct
      have member := (Cache.searchEntry_some_iff distinct).mp held
      rcases (Cache.mem_storeSearch inMemory.distinct).mp member with
        ⟨rfl, rfl⟩ | ⟨apart, ⟨earlier, -⟩, -⟩
      · exact .inl ⟨rfl, rfl, rfl⟩
      · exact .inr ⟨by simpa using apart, (Cache.searchEntry_some_iff inMemory.distinct).mpr earlier⟩

end Cache.InMemory

namespace FeedCall

/-- Where the page of a call is looked up and kept, if the cache has a part in the call at all. -/
def slot? : FeedCall → Option Slot
  | latest r => if r.pageToken.isNone && r.mayUseCache then some .latest else none
  | search query r =>
    if r.mayUseCache then
      some (.search (Cache.searchKey (Text.trimmed query) r.pageToken r.maxResults))
    else none

def perform (c : Client) : FeedCall → CachedCall VideoPage
  | latest r => c.latest r
  | search query r => c.search query r

/-- How a call goes: which questions it puts to the channel, what the clock shows whenever it looks,
what it ends in and what the cache is afterwards. -/
inductive Goes (c : Client) (cache : Cache) (call : FeedCall) :
    Inquiry → List Instant → Except Fault VideoPage → Cache → Prop
  | plain {asked outcome} (apart : call.slot? = none) (ends : c.Ends call.Made asked outcome) :
      Goes c cache call asked [] outcome cache
  | found {slot now kept e} (has : call.slot? = some slot)
      (found : slot.look now cache = (some e, kept)) :
      Goes c cache call [] [now] (.ok e.page) kept
  | fetched {slot now later kept asked page} (has : call.slot? = some slot)
      (vain : slot.look now cache = (none, kept)) (ends : c.Ends call.Made asked (.ok page)) :
      Goes c cache call asked [now, later] (.ok page) (slot.keep page later kept)
  | failed {slot now kept asked fault} (has : call.slot? = some slot)
      (vain : slot.look now cache = (none, kept)) (stops : c.Stops asked fault) :
      Goes c cache call asked [now] (.error fault) kept

variable {c : Client} {s : Surroundings} {t : Transcript} {cache : Cache}

/-- A call is one look-up and one fetch, with a place in the cache or without. -/
theorem perform_eq (c : Client) (call : FeedCall) :
    ∃ slot mayUse, call.slot? = (if mayUse then some slot else none) ∧
      call.perform c = cached mayUse slot.look (call.fetch c) slot.keep := by
  cases call with
  | latest r => exact ⟨.latest, _, rfl, c.latest_eq r⟩
  | search query r => exact ⟨.search _, _, rfl, c.search_eq query r⟩

end FeedCall

section
variable {s : Surroundings} {t : Transcript} {cache : Cache}
  {look : Instant → Cache → Option CacheEntry × Cache} {call : Call VideoPage}
  {keep : VideoPage → Instant → Cache → Cache}

theorem runAct_cached_plain :
    runAct s cache t (cached false look call keep) =
      (((runCall s t call).1, cache), (runCall s t call).2) := by
  have asked : runAct s cache t (run call) = _ := runAct_mk_lift call
  change runAct s cache t (pure none >>= _) = _
  rw [runAct_bind, runAct_pure]
  dsimp only
  rw [runAct_bind, asked]
  obtain ⟨outcome, after⟩ := runCall s t call
  cases outcome <;> rfl

theorem runAct_cached :
    runAct s cache t (cached true look call keep) =
      match look (s.clock t.looks) cache with
      | (some e, kept) => ((.ok e.page, kept), t.looked)
      | (none, kept) =>
        match runCall s t.looked call with
        | (.ok page, after) => ((.ok page, keep page (s.clock after.looks) kept), after.looked)
        | (.error fault, after) => ((.error fault, kept), after) := by
  have seen : runAct s cache t now = ((.ok (s.clock t.looks), cache), t.looked) := rfl
  have found : runAct s cache t.looked (onCache (look (s.clock t.looks))) =
      ((.ok (look (s.clock t.looks) cache).1, (look (s.clock t.looks) cache).2), t.looked) := rfl
  change runAct s cache t (now >>= fun time => onCache (look time) >>= _) = _
  rw [runAct_bind, seen]
  dsimp only
  rw [runAct_bind, found]
  obtain ⟨entry, kept⟩ := look (s.clock t.looks) cache
  cases entry with
  | some e => rfl
  | none =>
    have asked : runAct s kept t.looked (run call) = _ := runAct_mk_lift call
    dsimp only
    rw [runAct_bind, asked]
    obtain ⟨outcome, after⟩ := runCall s t.looked call
    cases outcome <;> rfl

end

def timesOf (s : Surroundings) (first count : Nat) : List Instant :=
  (List.range' first count).map s.clock

theorem FeedCall.goes (call : FeedCall) (c : Client) (s : Surroundings) (cache : Cache)
    (t : Transcript) :
    ∃ asked times, (runAct s cache t (call.perform c)).2.exchanges =
        t.exchanges ++ asked.map c.exchange ∧
      timesOf s t.looks ((runAct s cache t (call.perform c)).2.looks - t.looks) = times ∧
      Goes c cache call asked times (runAct s cache t (call.perform c)).1.1
        (runAct s cache t (call.perform c)).1.2 := by
  obtain ⟨slot, mayUse, place, performed⟩ := call.perform_eq c
  rw [performed]
  cases mayUse with
  | false =>
    rw [runAct_cached_plain]
    obtain ⟨asked, exchanged, -, ends⟩ := call.fetch_inquires c s t
    refine ⟨asked, [], congrArg Transcript.exchanges exchanged, ?_, .plain place ends⟩
    simp [exchanged, timesOf]
  | true =>
    rw [runAct_cached]
    cases looked : slot.look (s.clock t.looks) cache with
    | mk entry kept =>
      cases entry with
      | some e =>
        refine ⟨[], [s.clock t.looks], (List.append_nil _).symm, ?_, .found place looked⟩
        simp [Transcript.looked, timesOf]
      | none =>
        dsimp only
        obtain ⟨asked, exchanged, -, ends⟩ := call.fetch_inquires c s t.looked
        generalize runCall s t.looked (call.fetch c) = ran at exchanged ends
        obtain ⟨outcome, after⟩ := ran
        subst exchanged
        cases outcome with
        | ok page =>
          refine ⟨asked, [s.clock t.looks, s.clock (t.looks + 1)], rfl, ?_, .fetched place looked ends⟩
          have two : t.looks + 1 + 1 - t.looks = 2 := by omega
          simp [Transcript.looked, timesOf, two, List.range']
        | error fault =>
          cases ends with
          | stopped stops =>
            refine ⟨asked, [s.clock t.looks], rfl, ?_, .failed place looked stops⟩
            simp [Transcript.looked, timesOf]

/-- A call as it was made: what it ended in, the cache before and after it, what was exchanged in it
and what the clock showed whenever it looked. -/
structure Visit where
  call : FeedCall
  before : Cache
  outcome : Except Fault VideoPage
  after : Cache
  exchanges : History
  times : List Instant

/-- Makes calls one after another. Each finds the cache as the one before it left it. -/
def visits (c : Client) (s : Surroundings) (cache : Cache) (t : Transcript) :
    List FeedCall → List Visit
  | [] => []
  | call :: rest =>
    let ended := runAct s cache t (call.perform c)
    ⟨call, cache, ended.1.1, ended.1.2, ended.2.exchanges.drop t.exchanges.length,
      timesOf s t.looks (ended.2.looks - t.looks)⟩ :: visits c s ended.1.2 ended.2 rest

def Successively (holds : List α → α → Prop) (elements : List α) : Prop :=
  ∀ earlier x later, elements = earlier ++ x :: later → holds earlier x

theorem Successively.weaken {holds other : List α → α → Prop} {elements : List α}
    (each : Successively holds elements) (implies : ∀ earlier x, holds earlier x → other earlier x) :
    Successively other elements :=
  fun earlier x later cut => implies earlier x (each earlier x later cut)

theorem Successively.cons {holds : List α → α → Prop} {x : α} {rest : List α} (first : holds [] x)
    (others : Successively (fun earlier => holds (x :: earlier)) rest) :
    Successively holds (x :: rest) := by
  intro earlier y later cut
  rcases cut_cons cut with ⟨rfl, rfl, -⟩ | ⟨before, rfl, tail⟩
  · exact first
  · exact others before y later tail

namespace Visit

/-- The channel was asked for the page that belongs in a place, and the page was kept there. -/
structure Fetches (v : Visit) (slot : Slot) (page : VideoPage) (kept : Instant) : Prop where
  slot : v.call.slot? = some slot
  asked : v.exchanges ≠ []
  answered : v.outcome = .ok page
  last : v.times.getLast? = some kept

/-- The last call that fetched the page of a place. -/
def LastFetched (history : List Visit) (slot : Slot) (page : VideoPage) (kept : Instant) : Prop :=
  ∃ past source between, history = past ++ source :: between ∧ source.Fetches slot page kept ∧
    ∀ v ∈ between, v.call.slot? = some slot → v.exchanges ≠ [] → ∀ page, v.outcome ≠ .ok page

theorem LastFetched.snoc {history : List Visit} {slot : Slot} {page : VideoPage} {kept : Instant}
    (fetched : LastFetched history slot page kept) {v : Visit}
    (other : v.call.slot? = some slot → v.exchanges ≠ [] → ∀ page, v.outcome ≠ .ok page) :
    LastFetched (history ++ [v]) slot page kept := by
  obtain ⟨past, source, between, rfl, fetches, none⟩ := fetched
  refine ⟨past, source, between ++ [v], by simp, fetches, ?_⟩
  exact List.forall_mem_append.mpr ⟨none, List.forall_mem_singleton.mpr other⟩

def Goes (c : Client) (v : Visit) : Prop :=
  ∃ asked, v.exchanges = asked.map c.exchange ∧
    v.call.Goes c v.before asked v.times v.outcome v.after

theorem Goes.made {c : Client} {v : Visit} {page : VideoPage} (goes : v.Goes c)
    (ok : v.outcome = .ok page) (asks : v.exchanges ≠ []) :
    ∃ asked, v.exchanges = asked.map c.exchange ∧ (∀ pair ∈ asked, Question.Answered pair) ∧
      v.call.Made asked page := by
  obtain ⟨call, before, outcome, after, exchanges, times⟩ := v
  obtain ⟨asked, exchanged, goes⟩ := goes
  dsimp only at ok asks exchanged goes
  subst ok
  cases goes with
  | plain apart ends =>
    cases ends with
    | answered all made => exact ⟨asked, exchanged, all, made⟩
  | found => exact absurd exchanged asks
  | fetched has vain ends =>
    cases ends with
    | answered all made => exact ⟨asked, exchanged, all, made⟩

end Visit

/-- What every call leaves true of the calls so far and the cache is found true by every call. -/
theorem visits_keep (c : Client) (holds : List Visit → Cache → Prop)
    (step : ∀ {history v}, holds history v.before → v.Goes c → holds (history ++ [v]) v.after)
    (s : Surroundings) {cache : Cache} (start : holds [] cache) (t : Transcript)
    (calls : List FeedCall) :
    Successively (fun earlier v => holds earlier v.before ∧ v.Goes c) (visits c s cache t calls) := by
  have later : ∀ history cache t, holds history cache →
      Successively (fun earlier v => holds (history ++ earlier) v.before ∧ v.Goes c)
        (visits c s cache t calls) := by
    induction calls with
    | nil => exact fun _ _ _ _ earlier _ _ cut => absurd cut.symm (by simp [visits])
    | cons call calls ih =>
      intro history cache t held
      obtain ⟨asked, times, exchanged, seen, goes⟩ := call.goes c s cache t
      have went : Visit.Goes c ⟨call, cache, (runAct s cache t (call.perform c)).1.1,
          (runAct s cache t (call.perform c)).1.2,
          (runAct s cache t (call.perform c)).2.exchanges.drop t.exchanges.length,
          timesOf s t.looks ((runAct s cache t (call.perform c)).2.looks - t.looks)⟩ :=
        ⟨asked, by rw [exchanged, List.drop_left], by rw [seen]; exact goes⟩
      refine .cons ⟨by rwa [List.append_nil], went⟩ ?_
      refine (ih _ _ _ (step held went)).weaken ?_
      intro earlier v held
      rwa [List.append_assoc] at held
  exact later [] cache t start

/-- Everything in the cache is the page of the last call that fetched it. -/
structure Traced (ttl : Duration) (history : List Visit) (cache : Cache) : Prop where
  inMemory : cache.InMemory ttl
  source : ∀ slot e, slot.entry? cache = some e →
    Visit.LastFetched history slot e.page e.timestamp

theorem Traced.new (ttl : Duration) : Traced ttl [] (Cache.new ttl none) where
  inMemory := ⟨rfl, rfl, List.nodup_nil⟩
  source slot e held := by cases slot <;> cases held

theorem Traced.step {ttl : Duration} {history : List Visit} {c : Client} {v : Visit}
    (traced : Traced ttl history v.before) (goes : v.Goes c) :
    Traced ttl (history ++ [v]) v.after := by
  obtain ⟨call, before, outcome, after, exchanges, times⟩ := v
  obtain ⟨asked, exchanged, goes⟩ := goes
  dsimp only at traced exchanged goes ⊢
  cases goes with
  | plain apart ends =>
    refine ⟨traced.inMemory, ?_⟩
    intro slot e held
    refine (traced.source slot e held).snoc ?_
    intro has
    rw [apart] at has
    cases has
  | @found place now kept entry has found =>
    obtain ⟨-, -, rfl⟩ := Slot.look_some traced.inMemory.file found
    refine ⟨traced.inMemory, ?_⟩
    intro slot e held
    exact (traced.source slot e held).snoc fun _ some => absurd exchanged some
  | @fetched place now later kept asked page has vain ends =>
    have looked := traced.inMemory.look vain
    refine ⟨looked.keep place page later, ?_⟩
    intro slot e held
    rcases looked.entry?_keep held with ⟨rfl, rfl, rfl⟩ | ⟨apart, held⟩
    · cases ends with
      | answered all made =>
        refine ⟨history, _, [], rfl, ⟨has, ?_, rfl, rfl⟩, by simp⟩
        rw [exchanged]
        exact fun none => made.ne_nil (List.map_eq_nil_iff.mp none)
    · refine (traced.source slot e (traced.inMemory.entry?_look vain held)).snoc ?_
      intro same
      exact absurd (Option.some.inj (same.symm.trans has)) apart
  | @failed place now kept asked fault has vain stops =>
    refine ⟨traced.inMemory.look vain, ?_⟩
    intro slot e held
    refine (traced.source slot e (traced.inMemory.entry?_look vain held)).snoc ?_
    exact fun _ _ page ok => nomatch ok

theorem visits_traced (c : Client) (ttl : Duration) (s : Surroundings) (t : Transcript)
    (calls : List FeedCall) :
    Successively (fun earlier v => Traced ttl earlier v.before ∧ v.Goes c)
      (visits c s (Cache.new ttl none) t calls) :=
  visits_keep c (Traced ttl) (fun traced goes => traced.step goes) s (.new ttl) t calls

namespace Visit

/-- Nothing comes into the cache, and nothing is lost of it but an answer to the search of the call
that had expired. -/
def DropsOnlyStale (ttl : Duration) (v : Visit) : Prop :=
  ∃ searches, v.after = { v.before with searches } ∧
    (∀ pair ∈ searches, pair ∈ v.before.searches) ∧
    ∀ key e, (key, e) ∈ v.before.searches → (key, e) ∉ searches →
      v.call.slot? = some (.search key) ∧ ∃ now, v.times = [now] ∧ ttl < e.age now

/-- What a call that ends after some others may have done. -/
structure Lawful (c : Client) (ttl : Duration) (earlier : List Visit) (v : Visit) : Prop where
  /-- A page that nobody was asked for is the one that was fetched last, no longer ago than the ttl. -/
  found : ∀ page, v.outcome = .ok page → v.exchanges = [] → ∃ slot kept now,
    v.call.slot? = some slot ∧ LastFetched earlier slot page kept ∧ v.times = [now] ∧
      now.since kept ≤ ttl
  /-- Any other page is made of the answers of the channel in the same call. -/
  fetched : ∀ page, v.outcome = .ok page → v.exchanges ≠ [] → ∃ asked,
    v.exchanges = asked.map c.exchange ∧ (∀ pair ∈ asked, Question.Answered pair) ∧
      v.call.Made asked page
  plain : v.call.slot? = none →
    v.after = v.before ∧ ∀ page, v.outcome = .ok page → v.exchanges ≠ []
  failed : ∀ fault, v.outcome = .error fault →
    (∃ asked, v.exchanges = asked.map c.exchange ∧ c.Stops asked fault) ∧ v.DropsOnlyStale ttl

variable {c : Client} {ttl : Duration} {v : Visit} {page : VideoPage} {fault : Fault}

theorem Goes.found (goes : v.Goes c) (ok : v.outcome = .ok page) (quiet : v.exchanges = []) :
    ∃ slot now kept e, v.call.slot? = some slot ∧ slot.look now v.before = (some e, kept) ∧
      v.times = [now] ∧ e.page = page := by
  obtain ⟨call, before, outcome, after, exchanges, times⟩ := v
  obtain ⟨asked, exchanged, goes⟩ := goes
  dsimp only at ok quiet exchanged goes ⊢
  have none := List.map_eq_nil_iff.mp (exchanged.symm.trans quiet)
  subst ok
  cases goes with
  | @found slot now _ e has found => exact ⟨slot, now, _, e, has, found, rfl, rfl⟩
  | plain apart ends =>
    cases ends with
    | answered all made => exact absurd none made.ne_nil
  | fetched has vain ends =>
    cases ends with
    | answered all made => exact absurd none made.ne_nil

theorem Goes.plain (goes : v.Goes c) (apart : v.call.slot? = none) : v.after = v.before := by
  obtain ⟨call, before, outcome, after, exchanges, times⟩ := v
  obtain ⟨asked, exchanged, goes⟩ := goes
  dsimp only at apart goes ⊢
  cases goes with
  | plain => rfl
  | found has =>
    rw [has] at apart
    cases apart
  | fetched has =>
    rw [has] at apart
    cases apart
  | failed has =>
    rw [has] at apart
    cases apart

theorem Goes.stops (goes : v.Goes c) (failed : v.outcome = .error fault) :
    ∃ asked, v.exchanges = asked.map c.exchange ∧ c.Stops asked fault := by
  obtain ⟨call, before, outcome, after, exchanges, times⟩ := v
  obtain ⟨asked, exchanged, goes⟩ := goes
  dsimp only at failed exchanged goes ⊢
  subst failed
  cases goes with
  | plain apart ends =>
    cases ends with
    | stopped stops => exact ⟨asked, exchanged, stops⟩
  | failed has vain stops => exact ⟨asked, exchanged, stops⟩

theorem Goes.dropsOnlyStale (goes : v.Goes c) (inMemory : v.before.InMemory ttl)
    (failed : v.outcome = .error fault) : v.DropsOnlyStale ttl := by
  obtain ⟨call, before, outcome, after, exchanges, times⟩ := v
  obtain ⟨asked, exchanged, goes⟩ := goes
  dsimp only at failed goes inMemory
  have unchanged : ∀ call times,
      DropsOnlyStale ttl ⟨call, before, outcome, before, exchanges, times⟩ := by
    intro call times
    refine ⟨before.searches, rfl, fun _ member => member, ?_⟩
    exact fun _ _ member absent => absurd member absent
  subst failed
  cases goes with
  | plain => exact unchanged call []
  | @failed slot now kept asked fault has vain stops =>
    rcases Slot.look_none inMemory.file vain with rfl | ⟨key, old, rfl, held, stale, rfl⟩
    · exact unchanged call [now]
    · refine ⟨_, rfl, fun pair member => (Cache.mem_without.mp member).1, ?_⟩
      intro k e member absent
      have same : k = key := by
        by_contra apart
        exact absent (Cache.mem_without.mpr ⟨member, apart⟩)
      subst same
      have only := (Cache.searchEntry_some_iff inMemory.distinct).mp held
      have equal := Cache.entry_unique inMemory.distinct only member
      subst equal
      refine ⟨has, now, rfl, ?_⟩
      rw [← inMemory.ttl]
      exact stale

end Visit

theorem Traced.lawful {ttl : Duration} {earlier : List Visit} {c : Client} {v : Visit}
    (traced : Traced ttl earlier v.before) (goes : v.Goes c) : v.Lawful c ttl earlier where
  found page ok quiet := by
    obtain ⟨slot, now, kept, e, has, found, times, rfl⟩ := goes.found ok quiet
    obtain ⟨held, young, -⟩ := Slot.look_some traced.inMemory.file found
    refine ⟨slot, e.timestamp, now, has, traced.source slot e held, times, ?_⟩
    rw [← traced.inMemory.ttl]
    exact young
  fetched page ok asks := goes.made ok asks
  plain apart := by
    refine ⟨goes.plain apart, ?_⟩
    intro page ok quiet
    obtain ⟨slot, -, -, -, has, -⟩ := goes.found ok quiet
    rw [apart] at has
    cases has
  failed fault failed := ⟨goes.stops failed, goes.dropsOnlyStale traced.inMemory failed⟩

/-- Whatever calls are made one after another, whatever the channel replies and whatever the clock
shows, a page from the cache is the last one that was fetched for its place, calls that the cache has
no part in leave it alone, and calls that fail lose nothing that is still good. -/
theorem cached_pages_traced (c : Client) (ttl : Duration) (s : Surroundings) (t : Transcript)
    (calls : List FeedCall) :
    Successively (Visit.Lawful c ttl) (visits c s (Cache.new ttl none) t calls) :=
  (visits_traced c ttl s t calls).weaken fun _ _ held => held.1.lawful held.2

end ParishSite.Feed
