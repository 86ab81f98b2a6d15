import ParishSite.Proofs.ExchangedModels
import ParishSite.Proofs.PageSizes
import ParishSite.Proofs.Utf8RoundTrip

/-! The latest page, in memory and in its file. A page that was saved is found again after a restart. A
look gives no page that is too old or that nobody kept, and it never puts an older page in the place of
the one in memory, whatever becomes of the file. -/

namespace ParishSite.Feed

open Json (Decodes)
open Json.Record (Reads)
open Time (Instant Duration)

namespace CacheEntry

theorem decodes (e : CacheEntry) : Decodes 3 decoder e.toJson e :=
  (Reads.of CacheEntry.mk
    |>.required "timestamp" (.instant e.timestamp)
    |>.required "data" (.list fun v _ => v.decodes)
    |>.given "next_page_token" e.nextPageToken).decoder (by decide)

theorem ofBytes?_toBytes (e : CacheEntry) : ofBytes? e.toBytes = some e := by
  rw [ofBytes?, toBytes, Text.Utf8.symbols_encode, e.decodes.read (by decide)]
  rfl

end CacheEntry

namespace Cache

theorem filed?_storeLatest {c : Cache} {file : CacheFile} (named : c.file = some file)
    (writable : file.isWritable = true) (videos : List Video) (token : Option String) (now : Instant) :
    (c.storeLatest videos token now).filed? = some ⟨now, videos, token⟩ := by
  rw [filed?, storeLatest, named, Option.map_some, Option.bind_some, CacheFile.replaced,
    if_pos writable, CacheFile.entry?, Option.bind_some, CacheEntry.ofBytes?_toBytes]

/-- What a look at the latest page can come to. -/
inductive Looks (c : Cache) (now : Instant) : Option CacheEntry × Cache → Prop
  | remembered {e} (held : c.memory = some e) (young : e.age now < c.ttl) : Looks c now (some e, c)
  | restored {e} (stale : ∀ old, c.memory = some old → c.ttl ≤ old.age now)
      (filed : c.filed? = some e) (fresh : e.age now ≤ c.ttl) :
      Looks c now (some e, { c with memory := some e })
  | vain (stale : ∀ old, c.memory = some old → c.ttl ≤ old.age now)
      (outdated : ∀ e, c.filed? = some e → c.ttl < e.age now) : Looks c now (none, c)

theorem latest_looks (c : Cache) (now : Instant) : c.Looks now (c.latest now) := by
  rw [latest]
  cases remembered : c.remembered? now with
  | some e =>
    obtain ⟨held, young⟩ := Option.filter_eq_some_iff.mp remembered
    exact .remembered held (by simpa using young)
  | none =>
    have stale : ∀ old, c.memory = some old → c.ttl ≤ old.age now := by
      intro old held
      simpa using Option.filter_eq_none_iff.mp remembered old held
    cases saved : c.saved? now with
    | some e =>
      obtain ⟨filed, fresh⟩ := Option.filter_eq_some_iff.mp saved
      exact .restored stale filed (by simpa using fresh)
    | none =>
      refine .vain stale fun e filed => ?_
      simpa using Option.filter_eq_none_iff.mp saved e filed

/-- A page that was saved is found by the first look after a restart, as long as the ttl allows. -/
theorem saved_feed_survives_restart {c : Cache} {file : CacheFile} (named : c.file = some file)
    (writable : file.isWritable = true) (videos : List Video) (token : Option String)
    (stored now : Instant) (ttl : Duration) :
    let e : CacheEntry := ⟨stored, videos, token⟩
    let restarted := new ttl (c.storeLatest videos token stored).file
    restarted.latest now =
      if now.since stored ≤ ttl then (some e, { restarted with memory := some e })
      else (none, restarted) := by
  intro e restarted
  have filed : restarted.filed? = some e := filed?_storeLatest named writable videos token stored
  have looks := restarted.latest_looks now
  cases found : restarted.latest now with
  | mk entry kept =>
  rw [found] at looks
  cases looks with
  | remembered held => cases held
  | restored _ read fresh =>
    obtain rfl := Option.some.inj (filed.symm.trans read)
    exact (if_pos fresh).symm
  | vain _ outdated => exact (if_neg (not_le.mpr (outdated e filed))).symm

/-- The end of a leap second, and two later instants. -/
def leapEnd : Instant := ⟨1435708799, 1999999999, by decide, by decide⟩
def nextMinute : Instant := ⟨1435708860, 0, by decide, by decide⟩
def nextHour : Instant := ⟨1435712400, 0, by decide, by decide⟩

theorem feed_of_leap_second_survives_restart :
    let file : CacheFile := ⟨none, true⟩
    let e : CacheEntry := ⟨leapEnd, [⟨"7", "\"Amen\" \n✝", "", "", "", "", "", none, some "12"⟩], some "next"⟩
    let kept := ((new 0 (some file)).storeLatest e.videos e.nextPageToken e.timestamp).file
    let restarted := new (Duration.ofSeconds 600) kept
    restarted.latest nextMinute = (some e, { restarted with memory := some e }) ∧
      restarted.latest nextHour = (none, restarted) := by
  intro file e kept restarted
  have named : (new 0 (some file)).file = some file := rfl
  have found (now : Instant) := saved_feed_survives_restart named rfl e.videos e.nextPageToken e.timestamp now
    (Duration.ofSeconds 600)
  exact ⟨(found nextMinute).trans (if_pos (by decide)), (found nextHour).trans (if_neg (by decide))⟩

/-- What can happen to the latest page. Any other file, or none, may take the place of the one there is,
and it may be one that cannot be written. -/
inductive Happening
  | store (videos : List Video) (nextPageToken : Option String) (now : Instant)
  | look (now : Instant)
  | swap (file : CacheFile)

def after (c : Cache) : Happening → Cache
  | .store videos token now => c.storeLatest videos token now
  | .look now => (c.latest now).2
  | .swap file => { c with file := c.file.map fun _ => file }

def course (c : Cache) (past : List Happening) : Cache := past.foldl after c

/-- Where a page in memory comes from: it was stored, or some look found it in the file. -/
inductive Origin (start : Cache) (past : List Happening) (e : CacheEntry) : Prop
  | stored {earlier} (told : earlier ++ [.store e.videos e.nextPageToken e.timestamp] <+: past)
  | found {earlier now} (told : earlier ++ [.look now] <+: past)
      (filed : (start.course earlier).filed? = some e)

theorem course_snoc (c : Cache) (past : List Happening) (last : Happening) :
    c.course (past ++ [last]) = (c.course past).after last := by
  rw [course, List.foldl_append]
  rfl

theorem after_ttl (c : Cache) (happening : Happening) : (c.after happening).ttl = c.ttl := by
  cases happening with
  | store | swap => rfl
  | look now =>
    have looks := c.latest_looks now
    change (c.latest now).2.ttl = c.ttl
    cases found : c.latest now with
    | mk entry kept =>
    rw [found] at looks
    cases looks <;> rfl

theorem course_ttl (c : Cache) (past : List Happening) : (c.course past).ttl = c.ttl := by
  induction past generalizing c with
  | nil => rfl
  | cons first past ih => exact (ih (c.after first)).trans (c.after_ttl first)

theorem Origin.snoc {start : Cache} {past : List Happening} {e : CacheEntry} (origin : Origin start past e)
    (last : Happening) : Origin start (past ++ [last]) e := by
  cases origin with
  | stored told => exact .stored (told.trans (List.prefix_append past [last]))
  | found told filed => exact .found (told.trans (List.prefix_append past [last])) filed

theorem Origin.step {start : Cache} {past : List Happening} {last : Happening} {e : CacheEntry}
    (known : ∀ old, (start.course past).memory = some old → Origin start past old)
    (held : ((start.course past).after last).memory = some e) : Origin start (past ++ [last]) e := by
  cases last with
  | store videos token now =>
    obtain rfl := Option.some.inj held
    exact .stored (List.prefix_refl _)
  | swap file => exact (known e held).snoc _
  | look now =>
    have looks := (start.course past).latest_looks now
    change ((start.course past).latest now).2.memory = some e at held
    cases found : (start.course past).latest now with
    | mk entry kept =>
    rw [found] at looks held
    cases looks with
    | remembered | vain => exact (known e held).snoc _
    | restored _ filed =>
      obtain rfl := Option.some.inj held
      exact .found (List.prefix_refl _) filed

/-- Pages in memory are not made up, whatever happened. -/
theorem memory_origin {start : Cache} (empty : start.memory = none) (past : List Happening) :
    ∀ e, (start.course past).memory = some e → Origin start past e := by
  induction past using List.reverseRecOn with
  | nil =>
    intro e held
    change start.memory = some e at held
    rw [empty] at held
    cases held
  | append_singleton past last ih =>
    intro e held
    rw [course_snoc] at held
    exact Origin.step ih held

/-- What a look at the latest page owes to those who ask. -/
structure Honest (c : Cache) (now : Instant) (found : Option CacheEntry) (kept : Cache) : Prop where
  fresh : ∀ e, found = some e → now.since e.timestamp ≤ c.ttl
  held : ∀ e, found = some e → c.memory = some e ∨ c.filed? = some e
  remembered : ∀ e, found = some e → kept.memory = some e
  /-- The page in memory gives way only to one that is not older. -/
  newer : ∀ old new, c.memory = some old → kept.memory = some new →
    now.since new.timestamp ≤ now.since old.timestamp
  vain : found = none → kept.memory = c.memory

theorem Looks.honest {c kept : Cache} {now : Instant} {found : Option CacheEntry}
    (looks : c.Looks now (found, kept)) : c.Honest now found kept := by
  have same {old new : CacheEntry} (first : c.memory = some old) (second : c.memory = some new) :
      now.since new.timestamp ≤ now.since old.timestamp := by
    obtain rfl := Option.some.inj (first.symm.trans second)
    exact le_refl _
  cases looks with
  | remembered held young =>
    refine ⟨?fresh, ?held, ?kept, fun _ _ => same, fun vain => nomatch vain⟩
    all_goals rintro _ ⟨⟩
    case fresh => exact le_of_lt young
    case held => exact .inl held
    case kept => exact held
  | restored stale filed fresh =>
    refine ⟨?fresh, ?held, ?kept, ?newer, fun vain => nomatch vain⟩
    case newer =>
      -- The old page has reached the ttl and the new one has not passed it.
      rintro old _ held ⟨⟩
      exact le_trans fresh (stale old held)
    all_goals rintro _ ⟨⟩
    case fresh => exact fresh
    case held => exact .inr filed
    case kept => rfl
  | vain =>
    refine ⟨?fresh, ?held, ?kept, fun _ _ => same, fun _ => rfl⟩
    all_goals exact fun _ found => nomatch found

/-- In every run, whatever clocks say and whatever becomes of the file, a look is honest, the page in
memory comes from a store or from the file, and a page that is stored is remembered even if it could not
be written. -/
theorem latest_page_is_honest (ttl : Duration) (file : Option CacheFile) (past : List Happening) :
    let start := new ttl file
    let cache := start.course past
    cache.ttl = ttl ∧
    (∀ now, cache.Honest now (cache.latest now).1 (cache.latest now).2) ∧
    (∀ e, cache.memory = some e → Origin start past e) ∧
    ∀ videos token now, (cache.storeLatest videos token now).memory = some ⟨now, videos, token⟩ := by
  intro start cache
  refine ⟨course_ttl start past, ?_, memory_origin rfl past, fun _ _ _ => rfl⟩
  exact fun now => (cache.latest_looks now).honest

end Cache
end ParishSite.Feed
