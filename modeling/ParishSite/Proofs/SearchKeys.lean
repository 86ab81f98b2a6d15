import ParishSite.Proofs.PageSizes
import ParishSite.Proofs.TrimmedText

/-! What the key of a search tells of its question. The number of videos can be read off a key. The
query and the page can be told apart as long as no page token holds a colon or is the word that stands
for the first page, and then a search is only ever answered with what was found for the same question.
Other tokens make one key of two questions. -/

namespace ParishSite.Feed

open Time (Duration Instant)

/-- Two texts that are cut at one separator each are the same text only if they are cut alike, or the
first part of one ends within the second part of the other. -/
theorem cut_cases {α : Type _} {sep : α} {xs ys u v : List α} (same : xs ++ sep :: u = ys ++ sep :: v) :
    xs = ys ∧ u = v ∨ (∃ part, ys = xs ++ sep :: part ∧ u = part ++ sep :: v) ∨
      ∃ part, xs = ys ++ sep :: part ∧ v = part ++ sep :: u := by
  rcases List.append_eq_append_iff.mp same with ⟨more, longer, rest⟩ | ⟨more, longer, rest⟩
  · cases more with
    | nil => exact .inl ⟨by simpa using longer.symm, (List.cons.inj rest).2⟩
    | cons first part =>
      obtain ⟨rfl, behind⟩ := List.cons.inj rest
      exact .inr (.inl ⟨part, longer, behind⟩)
  · cases more with
    | nil => exact .inl ⟨by simpa using longer, (List.cons.inj rest).2.symm⟩
    | cons first part =>
      obtain ⟨rfl, behind⟩ := List.cons.inj rest
      exact .inr (.inr ⟨part, longer, behind⟩)

theorem cut_last {α : Type _} {sep : α} {xs ys u v : List α} (free : sep ∉ u) (free' : sep ∉ v)
    (same : xs ++ sep :: u = ys ++ sep :: v) : xs = ys ∧ u = v := by
  rcases cut_cases same with alike | ⟨part, -, rfl⟩ | ⟨part, -, rfl⟩
  · exact alike
  · exact absurd (List.mem_append_right part List.mem_cons_self) free
  · exact absurd (List.mem_append_right part List.mem_cons_self) free'

structure SearchTerms where
  query : String
  pageToken : Option String
  maxResults : Nat

namespace SearchTerms

def of (query : String) (r : PageRequest) : SearchTerms := ⟨query, r.pageToken, r.maxResults⟩

def key (a : SearchTerms) : String := Cache.searchKey a.query a.pageToken a.maxResults

def page (a : SearchTerms) : String := a.pageToken.getD "first"

/-- White space around the query does not matter to a question. -/
structure Same (a b : SearchTerms) : Prop where
  query : Text.trimmed a.query = Text.trimmed b.query
  pageToken : a.pageToken = b.pageToken
  maxResults : a.maxResults = b.maxResults

/-- The query of the second question ends with a part of the page of the first. -/
def Overlaps (a b : SearchTerms) : Prop :=
  ∃ part, Text.trimmed b.query = Text.trimmed a.query ++ ":" ++ part ∧ a.page = part ++ ":" ++ b.page

def Alike (a b : SearchTerms) : Prop :=
  a.maxResults = b.maxResults ∧
    (Text.trimmed a.query = Text.trimmed b.query ∧ a.page = b.page ∨ a.Overlaps b ∨ b.Overlaps a)

/-- The page token can be told from a query and from the first page. -/
def Plain (a : SearchTerms) : Prop :=
  ∀ token, a.pageToken = some token → token ≠ "first" ∧ ':' ∉ token.toList

private def words (a : SearchTerms) : List Char :=
  (Text.trimmed a.query).toList ++ ':' :: a.page.toList

private theorem toList_key (a : SearchTerms) :
    a.key.toList = ("search:".toList ++ a.words) ++ ':' :: (toString a.maxResults).toList := by
  have colon : ":".toList = [':'] := rfl
  simp only [key, Cache.searchKey, words, page, String.toList_append, colon, List.append_assoc,
    List.cons_append, List.nil_append]

private theorem colon_digits (n : Nat) : ':' ∉ (toString n).toList := by
  intro member
  rw [Nat.toString_eq_ofList_toDigits, String.toList_ofList] at member
  have digit := Nat.isDigit_of_mem_toDigits (by decide) (by decide) member
  exact absurd digit (by decide)

private theorem words_eq_iff (a b : SearchTerms) :
    a.words = b.words ↔
      Text.trimmed a.query = Text.trimmed b.query ∧ a.page = b.page ∨ a.Overlaps b ∨ b.Overlaps a := by
  have overlap {c d : SearchTerms} (overlaps : c.Overlaps d) : c.words = d.words := by
    obtain ⟨part, query, page⟩ := overlaps
    have colon : ":".toList = [':'] := rfl
    simp [words, query, page, colon]
  have overlaps_of_part {c d : SearchTerms} {part : List Char}
      (query : (Text.trimmed d.query).toList = (Text.trimmed c.query).toList ++ ':' :: part)
      (page : c.page.toList = part ++ ':' :: d.page.toList) : c.Overlaps d := by
    have colon : ":".toList = [':'] := rfl
    refine ⟨String.ofList part, String.toList_inj.mp ?_, String.toList_inj.mp ?_⟩
    · simp [query, colon]
    · simp [page, colon]
  constructor
  · intro same
    rcases cut_cases same with ⟨query, page⟩ | ⟨part, query, page⟩ | ⟨part, query, page⟩
    · exact .inl ⟨String.toList_inj.mp query, String.toList_inj.mp page⟩
    · exact .inr (.inl (overlaps_of_part query page))
    · exact .inr (.inr (overlaps_of_part query page))
  · intro alike
    rcases alike with ⟨query, page⟩ | overlaps | overlaps
    · simp only [words, query, page]
    · exact overlap overlaps
    · exact (overlap overlaps).symm

/-- Two questions have one key exactly if they want as many videos, and either the same query and page
or such as overlap. -/
theorem key_eq_iff (a b : SearchTerms) : a.key = b.key ↔ a.Alike b := by
  rw [Alike, ← words_eq_iff, ← String.toList_inj, toList_key, toList_key]
  constructor
  · intro same
    obtain ⟨start, digits⟩ := cut_last (colon_digits _) (colon_digits _) same
    exact ⟨eq_of_digits (String.toList_inj.mp digits), List.append_cancel_left start⟩
  · intro ⟨size, words⟩
    rw [size, words]

theorem Plain.colon {a : SearchTerms} (plain : a.Plain) : ':' ∉ a.page.toList := by
  cases token : a.pageToken with
  | none =>
    rw [page, token]
    decide
  | some text =>
    rw [page, token]
    exact (plain text token).2

/-- The page that a plain token stands for is not the first one, nor that of another token. -/
theorem Plain.pageToken_eq {a b : SearchTerms} (plain : a.Plain) (plain' : b.Plain)
    (same : a.page = b.page) : a.pageToken = b.pageToken := by
  rw [page, page] at same
  cases first : a.pageToken with
  | none =>
    cases second : b.pageToken with
    | none => rfl
    | some token =>
      rw [first, second] at same
      exact absurd same.symm (plain' token second).1
  | some token =>
    cases second : b.pageToken with
    | none =>
      rw [first, second] at same
      exact absurd same (plain token first).1
    | some other =>
      rw [first, second] at same
      exact congrArg some same

theorem Plain.not_overlaps {a : SearchTerms} (plain : a.Plain) (b : SearchTerms) : ¬ a.Overlaps b := by
  intro ⟨part, _, page⟩
  apply plain.colon
  rw [page]
  simp

theorem Alike.same {a b : SearchTerms} (alike : a.Alike b) (plain : a.Plain) (plain' : b.Plain) :
    a.Same b := by
  obtain ⟨size, words⟩ := alike
  rcases words with ⟨query, page⟩ | overlaps | overlaps
  · exact ⟨query, plain.pageToken_eq plain' page, size⟩
  · exact absurd overlaps (plain.not_overlaps b)
  · exact absurd overlaps (plain'.not_overlaps a)

end SearchTerms

namespace Slot

variable {slot : Slot} {cache kept : Cache} {now : Instant} {entry : Option CacheEntry} {key : String}
  {e : CacheEntry}

theorem look_searches (looked : slot.look now cache = (entry, kept)) :
    kept.searches.Sublist cache.searches := by
  cases slot with
  | latest =>
    simp only [look, Cache.latest] at looked
    split at looked
    · cases looked
      exact .refl _
    · split at looked
      · cases looked
        exact .refl _
      · cases looked
        exact .refl _
  | search key =>
    simp only [look, Cache.search] at looked
    split at looked
    · cases looked
      exact .refl _
    · split at looked
      · cases looked
        exact List.filter_sublist
      · cases looked
        exact .refl _

theorem look_search (found : (search key).look now cache = (some e, kept)) :
    cache.searchEntry? key = some e := by
  simp only [look, Cache.search] at found
  split at found
  · cases found
  · next held =>
    split at found
    · cases found
    · cases found
      exact held

end Slot

/-- Every answer to a search was fetched by some call that looked for it under the same key. -/
structure Recalled (history : List Visit) (cache : Cache) : Prop where
  distinct : (Cache.keys cache.searches).Nodup
  source : ∀ key e, (key, e) ∈ cache.searches →
    ∃ source ∈ history, source.Fetches (.search key) e.page e.timestamp

section
variable {history : List Visit} {cache kept : Cache} {c : Client} {v : Visit}

theorem Recalled.new (ttl : Duration) (file : Option CacheFile) : Recalled [] (Cache.new ttl file) where
  distinct := List.nodup_nil
  source _ _ held := nomatch held

theorem Recalled.snoc (recalled : Recalled history cache) (v : Visit) :
    Recalled (history ++ [v]) cache where
  distinct := recalled.distinct
  source key e held := by
    obtain ⟨source, member, fetches⟩ := recalled.source key e held
    exact ⟨source, List.mem_append_left _ member, fetches⟩

theorem Recalled.look {slot : Slot} {now : Instant} {entry : Option CacheEntry}
    (recalled : Recalled history cache) (looked : slot.look now cache = (entry, kept)) :
    Recalled history kept where
  distinct := recalled.distinct.sublist ((Slot.look_searches looked).map Prod.fst)
  source key e held := recalled.source key e ((Slot.look_searches looked).mem held)

theorem Recalled.keep {slot : Slot} {page : VideoPage} {now : Instant}
    (recalled : Recalled history cache)
    (fetched : ∃ source ∈ history, source.Fetches slot page now) :
    Recalled history (slot.keep page now cache) := by
  cases slot with
  | latest => exact ⟨recalled.distinct, recalled.source⟩
  | search key =>
    refine ⟨Cache.storeSearch_distinct recalled.distinct _ _ _ _, ?_⟩
    intro k e held
    rcases (Cache.mem_storeSearch recalled.distinct).mp held with
      ⟨rfl, rfl⟩ | ⟨-, ⟨earlier, -⟩, -⟩
    · exact fetched
    · exact recalled.source k e earlier

theorem Recalled.step (recalled : Recalled history v.before) (goes : v.Goes c) :
    Recalled (history ++ [v]) v.after := by
  obtain ⟨call, before, outcome, after, exchanges, times⟩ := v
  obtain ⟨asked, exchanged, goes⟩ := goes
  dsimp only at recalled exchanged goes ⊢
  cases goes with
  | plain => exact recalled.snoc _
  | found has found => exact (recalled.look found).snoc _
  | fetched has vain ends =>
    refine ((recalled.look vain).snoc _).keep ?_
    refine ⟨_, List.mem_append_right _ (List.mem_singleton_self _), has, ?_, rfl, rfl⟩
    rw [exchanged]
    cases ends with
    | answered all made => exact fun none => made.ne_nil (List.map_eq_nil_iff.mp none)
  | failed has vain stops => exact (recalled.look vain).snoc _

end

theorem FeedCall.slot?_search {query : String} {r : PageRequest} {slot : Slot}
    (has : (FeedCall.search query r).slot? = some slot) :
    slot = .search (SearchTerms.of query r).key := by
  rw [slot?] at has
  split at has
  · have same := (Option.some.inj has).symm
    rw [same, SearchTerms.key, SearchTerms.of, Cache.searchKey, Cache.searchKey, Text.trimmed_trimmed]
  · cases has

/-- What is kept under the key of a search was fetched by a search with that key. -/
theorem FeedCall.eq_search {call : FeedCall} {key : String} (has : call.slot? = some (.search key)) :
    ∃ query r, call = .search query r ∧ (SearchTerms.of query r).key = key := by
  cases call with
  | latest r =>
    rw [slot?] at has
    split at has <;> cases has
  | search query r => exact ⟨query, r, rfl, (Slot.search.inj (slot?_search has)).symm⟩

/-- A key tells how many videos are wanted, and if its page token is plain, it tells the whole question:
a search that is answered from the cache gets what was fetched for the same question. -/
theorem cached_search_answers_same_question (a b : SearchTerms) (c : Client) (ttl : Duration)
    (file : Option CacheFile) (s : Surroundings) (t : Transcript) (calls : List FeedCall) :
    (a.key = b.key ↔ a.Alike b) ∧
    (a.Plain → b.Plain → a.key = b.key → a.Same b) ∧
    Successively (fun earlier v => ∀ query r page, v.call = .search query r → v.outcome = .ok page →
        v.exchanges = [] → ∃ source ∈ earlier, ∃ first again, source.call = .search first again ∧
          source.outcome = .ok page ∧ source.exchanges ≠ [] ∧
          (SearchTerms.of first again).Alike (.of query r) ∧
          ((SearchTerms.of first again).Plain → (SearchTerms.of query r).Plain →
            (SearchTerms.of first again).Same (.of query r)))
      (visits c s (Cache.new ttl file) t calls) := by
  refine ⟨a.key_eq_iff b, ?_, ?_⟩
  · intro plain plain' same
    exact ((a.key_eq_iff b).mp same).same plain plain'
  · have each := visits_keep c Recalled (fun recalled goes => recalled.step goes) s (.new ttl file) t calls
    intro earlier v later cut query r page call ok quiet
    obtain ⟨recalled, goes⟩ := each earlier v later cut
    obtain ⟨slot, now, kept, e, has, found, -, rfl⟩ := goes.found ok quiet
    rw [call] at has
    have place := FeedCall.slot?_search has
    subst place
    have held := (Cache.searchEntry_some_iff recalled.distinct).mp (Slot.look_search found)
    obtain ⟨source, member, fetches⟩ := recalled.source _ e held
    obtain ⟨first, again, asker, same⟩ := FeedCall.eq_search fetches.slot
    have alike := (SearchTerms.key_eq_iff _ _).mp same
    exact ⟨source, member, first, again, asker, fetches.answered, fetches.asked, alike,
      fun plain plain' => alike.same plain plain'⟩

private def searcher : Client := ⟨Settings.defaultChannelUrl, some ⟨"key", "channel"⟩⟩

private def foundOn (pairs : List (String × String)) : String :=
  if pairs.any (·.1 = "pageToken") then
    "\x7b\"items\":[\x7b\"id\":\x7b\"videoId\":\"later\"\x7d\x7d]\x7d"
  else if pairs.any (·.1 = "q") then
    "\x7b\"items\":[\x7b\"id\":\x7b\"videoId\":\"early\"\x7d\x7d]\x7d"
  else "\x7b\x7d"

/-- One video is found on the first page of every search, and another on all other pages. -/
private def twoPages : Surroundings where
  reply _ q := .answered 200
    (some (Text.Utf8.encode (foundOn (q.url.query.elim [] Web.Form.decode)).toList))
  clock := (Surroundings.unmoved .dropped).clock
  draw := (Surroundings.unmoved .dropped).draw

private def searchedTwice (first second : SearchTerms) : List Visit :=
  visits searcher twoPages (Cache.new (Duration.ofSeconds 600) none) .empty
    [.search first.query ⟨first.pageToken, first.maxResults, true⟩,
      .search second.query ⟨second.pageToken, second.maxResults, true⟩]

private def told (v : Visit) : Bool × Option (List String) :=
  (v.exchanges.isEmpty, v.outcome.toOption.map fun page => page.videos.map Video.id)

/-- White space around the query does not matter: what was found is found again. -/
theorem padded_search_answered_again :
    let grace : SearchTerms := ⟨"grace", some "CAoQAA", 5⟩
    let padded : SearchTerms := ⟨" grace ", some "CAoQAA", 5⟩
    (searchedTwice grace padded).map told = [(false, some ["later"]), (true, some ["later"])] ∧
      grace.Plain ∧ padded.Plain ∧ grace.Same padded ∧
      ∃ source ∈ (searchedTwice grace padded).take 1, ∃ query r, source.call = .search query r ∧
        source.exchanges ≠ [] ∧ (SearchTerms.of query r).Same padded := by
  intro grace padded
  have plain : ∀ query, (⟨query, some "CAoQAA", 5⟩ : SearchTerms).Plain := by
    intro query token same
    cases same
    decide
  have seen : (searchedTwice grace padded).map told =
      [(false, some ["later"]), (true, some ["later"])] := by decide +kernel
  obtain ⟨-, alike, recalled⟩ := cached_search_answers_same_question grace padded searcher
    (Duration.ofSeconds 600) none twoPages .empty
    [.search grace.query ⟨grace.pageToken, grace.maxResults, true⟩,
      .search padded.query ⟨padded.pageToken, padded.maxResults, true⟩]
  have same : grace.Same padded := alike (plain _) (plain _) (by decide +kernel)
  refine ⟨seen, plain _, plain _, same, ?_⟩
  obtain ⟨first, again, cut, asker, call⟩ : ∃ first again, searchedTwice grace padded = [first, again] ∧
      first.call = .search grace.query ⟨grace.pageToken, grace.maxResults, true⟩ ∧
      again.call = .search padded.query ⟨padded.pageToken, padded.maxResults, true⟩ :=
    ⟨_, _, rfl, rfl, rfl⟩
  rw [cut, List.map_cons, List.map_singleton, List.cons.injEq, List.singleton_inj] at seen
  obtain ⟨quiet, videos⟩ := Prod.ext_iff.mp seen.2
  obtain ⟨page, answered, _⟩ := Option.map_eq_some_iff.mp videos
  obtain ⟨source, member, query, r, asks, _, asked, _, told⟩ :=
    recalled [first] again [] cut _ _ page call (of_toOption answered) (List.isEmpty_iff.mp quiet)
  rw [cut]
  refine ⟨source, member, query, r, asks, asked, told ?_ (plain _)⟩
  rw [List.mem_singleton.mp member, asker] at asks
  cases asks
  exact plain _

/-- The token that reads like the word for the first page stands for another page, and a colon may
belong to the query or to the token. Both times the channel would have told of another page. -/
theorem first_page_taken_for_another :
    let first : SearchTerms := ⟨"grace", none, 5⟩
    let other : SearchTerms := ⟨"grace", some "first", 5⟩
    let hope : SearchTerms := ⟨"hope:a", some "b", 5⟩
    let shorter : SearchTerms := ⟨"hope", some "a:b", 5⟩
    first.key = other.key ∧ ¬ first.Same other ∧ hope.key = shorter.key ∧ ¬ hope.Same shorter ∧
      (searchedTwice first other).map told = [(false, some ["early"]), (true, some ["early"])] ∧
      (searchedTwice other other).map told = [(false, some ["later"]), (true, some ["later"])] := by
  intro first other hope shorter
  refine ⟨by decide +kernel, ?_, by decide +kernel, ?_, by decide +kernel, by decide +kernel⟩
  · intro same
    exact nomatch same.pageToken
  · intro same
    exact absurd same.pageToken (by decide)

end ParishSite.Feed
