import ParishSite.Proofs.FormRoundTrip
import ParishSite.Proofs.PageProvenance

/-! How many videos a page of the newest uploads holds. A page that is fetched holds no more than were
wanted. A page from the cache holds no more than were wanted when it was fetched, which may have been
more than are wanted now. -/

namespace ParishSite.Feed

open Time (Instant Duration)
open Web (Outgoing Reply)

theorem eq_of_digits {m n : Nat} (same : toString m = toString n) : m = n := by
  have digits : Nat.toDigits 10 m = Nat.toDigits 10 n := by
    rwa [Nat.toString_eq_ofList_toDigits, Nat.toString_eq_ofList_toDigits, String.ofList_inj] at same
  calc m = Nat.ofDigitChars 10 (Nat.toDigits 10 m) 0 := Nat.ofDigitChars_ten_toDigits.symm
    _ = Nat.ofDigitChars 10 (Nat.toDigits 10 n) 0 := by rw [digits]
    _ = n := Nat.ofDigitChars_ten_toDigits

/-- Whenever the channel was asked for uploads, it listed no more of them than were wanted. -/
def Client.Modest (c : Client) (exchanges : History) : Prop :=
  ∀ known list r reply uploads, (c.request (.uploads known list r), reply) ∈ exchanges →
    (Question.uploads known list r).read reply = .ok uploads → uploads.items.length ≤ r.maxResults

theorem FeedCall.Made.length_le {c : Client} {r : PageRequest} {asked : Inquiry} {page : VideoPage}
    (made : (FeedCall.latest r).Made asked page) (modest : c.Modest (asked.map c.exchange)) :
    page.videos.length ≤ r.maxResults := by
  obtain ⟨known, list, reply, uploads, member, read, same, -⟩ := made
  have lengths := congrArg List.length same
  rw [List.length_map, List.length_map] at lengths
  have exchanged : (c.request (.uploads known list r), reply) ∈ asked.map c.exchange :=
    List.mem_map.mpr ⟨_, member, rfl⟩
  calc page.videos.length = uploads.videos.length := lengths
    _ ≤ uploads.items.length := List.length_filterMap_le _ _
    _ ≤ r.maxResults := modest known list r reply uploads exchanged read

theorem FeedCall.eq_latest {call : FeedCall} (slot : call.slot? = some .latest) :
    ∃ r, call = .latest r := by
  cases call with
  | latest r => exact ⟨r, rfl⟩
  | search query r =>
    simp only [slot?] at slot
    split at slot <;> cases slot

/-- A call that asks a modest channel ends in no more videos than it wants. -/
theorem Visit.Goes.length_le {c : Client} {v : Visit} {r : PageRequest} {page : VideoPage}
    (goes : v.Goes c) (call : v.call = .latest r) (ok : v.outcome = .ok page)
    (asks : v.exchanges ≠ []) (modest : c.Modest v.exchanges) : page.videos.length ≤ r.maxResults := by
  obtain ⟨asked, exchanged, -, made⟩ := goes.made ok asks
  rw [call] at made
  rw [exchanged] at modest
  exact made.length_le modest

/-- What the file can be read as. -/
def Cache.filed? (cache : Cache) : Option CacheEntry := cache.file.bind CacheFile.entry?

namespace Slot

variable {slot : Slot} {cache kept : Cache} {now : Instant} {entry : Option CacheEntry}
  {e : CacheEntry} {page : VideoPage}

theorem look_latest (found : latest.look now cache = (some e, kept)) :
    cache.memory = some e ∨ cache.filed? = some e := by
  simp only [look, Cache.latest] at found
  cases held : cache.remembered? now with
  | some remembered =>
    rw [held] at found
    cases found
    exact .inl (Option.filter_eq_some_iff.mp held).1
  | none =>
    rw [held] at found
    cases saved : cache.saved? now with
    | some read =>
      rw [saved] at found
      cases found
      exact .inr (Option.filter_eq_some_iff.mp saved).1
    | none =>
      rw [saved] at found
      cases found

/-- A look changes nothing about the file, and nothing comes into memory that was not there or in the
file. -/
theorem look_kept (looked : slot.look now cache = (entry, kept)) :
    kept.file = cache.file ∧
      ∀ e, kept.memory = some e → cache.memory = some e ∨ cache.filed? = some e := by
  cases slot with
  | latest =>
    simp only [look, Cache.latest] at looked
    split at looked
    · cases looked
      exact ⟨rfl, fun _ held => .inl held⟩
    · split at looked
      · next saved =>
        cases looked
        refine ⟨rfl, ?_⟩
        intro e held
        cases held
        exact .inr (Option.filter_eq_some_iff.mp saved).1
      · cases looked
        exact ⟨rfl, fun _ held => .inl held⟩
  | search key =>
    simp only [look, Cache.search] at looked
    split at looked
    · cases looked
      exact ⟨rfl, fun _ held => .inl held⟩
    · split at looked
      · cases looked
        exact ⟨rfl, fun _ held => .inl held⟩
      · cases looked
        exact ⟨rfl, fun _ held => .inl held⟩

theorem keep_memory (held : (slot.keep page now cache).memory = some e) :
    slot = latest ∧ e = ⟨now, page.videos, page.nextPageToken⟩ ∨ cache.memory = some e := by
  cases slot with
  | latest => exact .inl ⟨rfl, (Option.some.inj held).symm⟩
  | search key => exact .inr held

theorem keep_file (held : (slot.keep page now cache).filed? = some e) :
    slot = latest ∧
        CacheEntry.ofBytes? (CacheEntry.toBytes ⟨now, page.videos, page.nextPageToken⟩) = some e ∨
      cache.filed? = some e := by
  cases slot with
  | latest =>
    let bytes := CacheEntry.toBytes ⟨now, page.videos, page.nextPageToken⟩
    have file : (latest.keep page now cache).file = cache.file.map fun f => f.replaced bytes := rfl
    rw [Cache.filed?, file] at held
    cases known : cache.file with
    | none =>
      rw [known, Option.map_none, Option.bind_none] at held
      cases held
    | some f =>
      rw [known, Option.map_some, Option.bind_some, CacheFile.replaced] at held
      split at held
      · rw [CacheFile.entry?, Option.bind_some] at held
        exact .inl ⟨rfl, held⟩
      · refine .inr ?_
        rw [Cache.filed?, known, Option.bind_some]
        exact held
  | search key => exact .inr held

end Slot

def Fetched (history : List Visit) (page : VideoPage) (kept : Instant) : Prop :=
  ∃ source ∈ history, source.Fetches .latest page kept

/-- What the file can be read as, as far as the calls are concerned: what it held from the start, or
what was written of a page that some call fetched. -/
inductive Saved (start : Option CacheEntry) (history : List Visit) (e : CacheEntry) : Prop
  | given (held : start = some e)
  | written {page kept} (fetched : Fetched history page kept)
      (read : CacheEntry.ofBytes? (CacheEntry.toBytes ⟨kept, page.videos, page.nextPageToken⟩) = some e)

theorem Fetched.snoc {history : List Visit} {page : VideoPage} {kept : Instant}
    (fetched : Fetched history page kept) (v : Visit) : Fetched (history ++ [v]) page kept := by
  obtain ⟨source, member, fetches⟩ := fetched
  exact ⟨source, List.mem_append_left _ member, fetches⟩

theorem Saved.snoc {start : Option CacheEntry} {history : List Visit} {e : CacheEntry}
    (saved : Saved start history e) (v : Visit) : Saved start (history ++ [v]) e := by
  cases saved with
  | given held => exact .given held
  | written fetched read => exact .written (fetched.snoc v) read

/-- All uploads in the cache were fetched by some call, or come from the file. -/
structure Sourced (start : Option CacheEntry) (history : List Visit) (cache : Cache) : Prop where
  memory : ∀ e, cache.memory = some e →
    Fetched history e.page e.timestamp ∨ Saved start history e
  file : ∀ e, cache.filed? = some e → Saved start history e

theorem Sourced.new (ttl : Duration) (file : Option CacheFile) :
    Sourced (file.bind CacheFile.entry?) [] (Cache.new ttl file) where
  memory _ held := nomatch held
  file _ held := .given held

section
variable {start : Option CacheEntry} {history : List Visit} {c : Client} {v : Visit} {cache kept : Cache}

theorem Sourced.snoc (sourced : Sourced start history cache) (v : Visit) :
    Sourced start (history ++ [v]) cache where
  memory e held := by
    rcases sourced.memory e held with fetched | saved
    · exact .inl (fetched.snoc v)
    · exact .inr (saved.snoc v)
  file e held := (sourced.file e held).snoc v

theorem Sourced.look {slot : Slot} {now : Instant} {entry : Option CacheEntry}
    (sourced : Sourced start history cache) (looked : slot.look now cache = (entry, kept)) :
    Sourced start history kept where
  memory e held := by
    rcases (Slot.look_kept looked).2 e held with held | held
    · exact sourced.memory e held
    · exact .inr (sourced.file e held)
  file e held := by
    refine sourced.file e ?_
    rw [Cache.filed?, (Slot.look_kept looked).1] at held
    exact held

theorem Sourced.keep {slot : Slot} {page : VideoPage} {now : Instant}
    (sourced : Sourced start history cache) (fetched : slot = .latest → Fetched history page now) :
    Sourced start history (slot.keep page now cache) where
  memory e held := by
    rcases Slot.keep_memory held with ⟨latest, rfl⟩ | held
    · exact .inl (fetched latest)
    · exact sourced.memory e held
  file e held := by
    rcases Slot.keep_file held with ⟨latest, read⟩ | held
    · exact .written (fetched latest) read
    · exact sourced.file e held

theorem Sourced.step (sourced : Sourced start history v.before) (goes : v.Goes c) :
    Sourced start (history ++ [v]) v.after := by
  obtain ⟨call, before, outcome, after, exchanges, times⟩ := v
  obtain ⟨asked, exchanged, goes⟩ := goes
  dsimp only at sourced exchanged goes ⊢
  cases goes with
  | plain => exact sourced.snoc _
  | found has found => exact (sourced.look found).snoc _
  | fetched has vain ends =>
    refine ((sourced.look vain).snoc _).keep ?_
    rintro rfl
    refine ⟨_, List.mem_append_right _ (List.mem_singleton_self _), has, ?_, rfl, rfl⟩
    rw [exchanged]
    cases ends with
    | answered all made => exact fun none => made.ne_nil (List.map_eq_nil_iff.mp none)
  | failed has vain stops => exact (sourced.look vain).snoc _

end

/-- No page of uploads holds more videos than were wanted by the call that fetched it, which is the
call itself unless the page comes from the cache. Only what the file was read as may hold more. -/
theorem pages_within_fetched_size (c : Client) (ttl : Duration) (file : Option CacheFile)
    (s : Surroundings) (t : Transcript) (calls : List FeedCall) :
    Successively (fun earlier v => ∀ r page, v.call = .latest r → v.outcome = .ok page →
        (∀ u ∈ earlier ++ [v], c.Modest u.exchanges) →
        (v.exchanges ≠ [] → page.videos.length ≤ r.maxResults) ∧
        (v.exchanges = [] →
          (∃ kept, ∃ source ∈ earlier, source.Fetches .latest page kept ∧
            ∃ first, source.call = .latest first ∧ page.videos.length ≤ first.maxResults) ∨
          ∃ e, Saved (file.bind CacheFile.entry?) earlier e ∧ e.page = page))
      (visits c s (Cache.new ttl file) t calls) := by
  have each := visits_keep c (Sourced (file.bind CacheFile.entry?))
    (fun sourced goes => sourced.step goes) s (.new ttl file) t calls
  intro earlier v later cut r page call ok modest
  obtain ⟨sourced, goes⟩ := each earlier v later cut
  constructor
  · exact fun asks => goes.length_le call ok asks (modest v (by simp))
  · intro quiet
    obtain ⟨slot, now, kept, e, has, found, -, rfl⟩ := goes.found ok quiet
    have place : slot = .latest := by
      rw [call, FeedCall.slot?] at has
      split at has <;> cases has
      rfl
    subst place
    have source : Fetched earlier e.page e.timestamp ∨
        Saved (file.bind CacheFile.entry?) earlier e := by
      rcases Slot.look_latest found with held | held
      · exact sourced.memory e held
      · exact .inr (sourced.file e held)
    rcases source with ⟨source, member, fetches⟩ | saved
    · refine .inl ⟨e.timestamp, source, member, fetches, ?_⟩
      obtain ⟨first, asker⟩ := FeedCall.eq_latest fetches.slot
      obtain ⟨past, between, before⟩ := List.append_of_mem member
      obtain ⟨-, goes⟩ := each past source (between ++ v :: later) (by simp [cut, before])
      exact ⟨first, asker, goes.length_le asker fetches.answered fetches.asked
        (modest source (List.mem_append_left _ member))⟩
    · exact .inr ⟨e, saved, rfl⟩

private def twoUploads : List UInt8 :=
  Text.Utf8.encode ("\x7b\"items\":[\x7b\"contentDetails\":\x7b\"relatedPlaylists\":" ++
    "\x7b\"uploads\":\"U\"\x7d\x7d,\"snippet\":\x7b\"resourceId\":\x7b\"videoId\":\"v\"\x7d\x7d\x7d," ++
    "\x7b\"snippet\":\x7b\"resourceId\":\x7b\"videoId\":\"w\"\x7d\x7d\x7d]\x7d").toList

private def smallChannel : Surroundings := .unmoved (.answered 200 (some twoUploads))

private def reader : Client := ⟨Settings.defaultChannelUrl, some ⟨"key", "channel"⟩⟩

private def twoThenOne : List Visit :=
  visits reader smallChannel (Cache.new (Duration.ofSeconds 600) none) .empty
    [.latest ⟨none, 2, true⟩, .latest ⟨none, 1, true⟩]

private theorem smallChannel_asked : ∀ v ∈ twoThenOne, ∀ exchange ∈ v.exchanges,
    exchange.1.url.path = (reader.outgoing "playlistItems" []).url.path →
      exchange.1.url.query =
        some (Web.Form.encode (Question.uploads ⟨"key", "channel"⟩ "U" ⟨none, 2, true⟩).pairs) ∧
      (Client.outcomeOf UploadList.decoder exchange.2).toOption.map (·.items.length) = some 2 := by
  decide +kernel

private def wanted : FeedCall → Nat
  | .latest r => r.maxResults
  | .search _ r => r.maxResults

/-- The page for one video has two of them: it is the one that was fetched for two. -/
theorem small_page_filled_from_cache :
    (∀ v ∈ twoThenOne, reader.Modest v.exchanges) ∧
      twoThenOne.map (fun v => (wanted v.call, v.outcome.toOption.map (·.videos.length))) =
        [(2, some 2), (1, some 2)] := by
  refine ⟨?_, by decide +kernel⟩
  intro v inside known list r reply uploads member read
  have path : (reader.request (.uploads known list r)).url.path =
      (reader.outgoing "playlistItems" []).url.path := rfl
  obtain ⟨query, count⟩ := smallChannel_asked v inside _ member path
  have asked : (reader.request (.uploads known list r)).url.query =
      some (Web.Form.encode (Question.uploads known list r).pairs) := rfl
  have pairs := congrArg Web.Form.decode (Option.some.inj (asked.symm.trans query))
  rw [Web.Form.decode_encode, Web.Form.decode_encode] at pairs
  simp only [Question.pairs, List.cons_append, List.cons.injEq, Prod.mk.injEq] at pairs
  obtain ⟨-, -, ⟨-, size⟩, -⟩ := pairs
  have told : Client.outcomeOf UploadList.decoder reply = .ok uploads := read
  rw [told] at count
  rw [eq_of_digits size]
  exact Nat.le_of_eq (Option.some.inj count)

end ParishSite.Feed
