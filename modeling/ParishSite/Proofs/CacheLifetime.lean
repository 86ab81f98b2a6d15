import ParishSite.Proofs.CacheSearches
import ParishSite.Proofs.InstantOrder
import ParishSite.Service.Basic

/-! How long answers to searches are kept, by the number of seconds in the settings. As long as their
milliseconds fit 64 bits, an answer is found until they have passed. With more seconds the service does
not start, and the largest numbers of all count as negative, so that no answer is ever found again. -/

namespace ParishSite

open Time (Instant Duration)

namespace Time.Instant

theorem of?_parts {seconds : Int} {nanos : Nat} {t : Instant} (made : of? seconds nanos = some t) :
    t.seconds = seconds ∧ t.nanos = nanos := by
  rw [of?] at made
  split at made
  · cases made
    exact ⟨rfl, rfl⟩
  · cases made

theorem counted?_ticks {seconds nanos : Int} {t : Instant} (made : counted? seconds nanos = some t) :
    t.isLeap = false ∧ t.ticks = seconds * 1000000000 + nanos := by
  obtain ⟨second, part⟩ := of?_parts made
  rw [isLeap, ticks, second, part, decide_eq_false_iff_not]
  omega

/-- Seen from an ordinary instant, a leap second may count as a second of its own. -/
theorem since_ordinary {later : Instant} (ordinary : later.isLeap = false) (earlier : Instant) :
    ∃ extra : Int, (extra = 0 ∨ earlier.isLeap = true ∧ extra = 1000000000) ∧
      later.since earlier = later.ticks - earlier.ticks + extra := by
  simp only [since, ticks, Duration.ofSeconds, ordinary, Bool.and_false, Bool.false_eq_true, if_false,
    Bool.and_eq_true, decide_eq_true_eq]
  split
  · next counts =>
    refine ⟨1000000000, .inr ⟨counts.2, rfl⟩, ?_⟩
    change @Eq Int _ _
    ring
  · refine ⟨0, .inl rfl, ?_⟩
    change @Eq Int _ _
    ring

theorem since_sameSecond {later earlier : Instant} (same : later.seconds = earlier.seconds) :
    later.since earlier = (later.nanos - earlier.nanos : Int) := by
  simp only [since, secondOfDay, same, Duration.ofSeconds, Int.sub_self, Int.lt_irrefl, decide_false,
    Bool.false_and, Bool.false_eq_true, if_false, Int.zero_add, Int.zero_mul]

private theorem split_seconds (d : Int) :
    let whole := d.tdiv 1000000000
    let part := d.tmod 1000000000
    whole * 1000000000 + part = d ∧ (-1000000000 < part ∧ part < 1000000000) ∧
      (0 < whole → 0 ≤ part) ∧ (whole < 0 → part ≤ 0) := by
  intro whole part
  have sum : whole * 1000000000 + part = d := Int.tdiv_mul_add_tmod d 1000000000
  have low : -1000000000 < part := Int.lt_tmod_of_pos d (by decide)
  have high : part < 1000000000 := Int.tmod_lt_of_pos d (by decide)
  refine ⟨sum, ⟨low, high⟩, fun ahead => ?_, fun back => ?_⟩
  · exact Int.tmod_nonneg _ (by omega)
  · have opposite := Int.tmod_nonneg (a := -d) 1000000000 (by omega)
    rw [Int.neg_tmod] at opposite
    exact Int.neg_nonneg.mp opposite

/-- The time back to where a length of time began is not longer, and less than a second shorter than
nothing. -/
theorem since_plus? {t later : Instant} {d : Int} (moved : t.plus? d = some later) :
    ∃ gap : Int, later.since t = gap ∧ gap ≤ max d 0 ∧ (0 ≤ d → -1000000000 < gap) := by
  obtain ⟨sum, small, forth, back⟩ := split_seconds d
  rw [plus?] at moved
  by_cases leap : t.isLeap = true
  · rw [if_pos leap] at moved
    have late : 1000000000 ≤ t.nanos := of_decide_eq_true leap
    have bound := t.inSecond
    split at moved
    · next ahead =>
      simp only [Bool.or_eq_true, Bool.and_eq_true, decide_eq_true_eq] at ahead
      obtain ⟨ordinary, count⟩ := counted?_ticks moved
      obtain ⟨extra, counts, gap⟩ := since_ordinary ordinary t
      refine ⟨_, gap, ?_⟩
      rw [count, ticks]
      omega
    · next behind =>
      simp only [Bool.or_eq_true, Bool.and_eq_true, decide_eq_true_eq] at behind
      split at moved
      · next ahead =>
        obtain ⟨ordinary, count⟩ := counted?_ticks moved
        obtain ⟨extra, counts, gap⟩ := since_ordinary ordinary t
        refine ⟨_, gap, ?_⟩
        rw [count, ticks]
        omega
      · next inside =>
        obtain ⟨same, nanos⟩ := of?_parts moved
        refine ⟨_, since_sameSecond same, ?_⟩
        rw [nanos]
        omega
  · rw [if_neg leap] at moved
    obtain ⟨ordinary, count⟩ := counted?_ticks moved
    obtain ⟨extra, counts, gap⟩ := since_ordinary ordinary t
    refine ⟨_, gap, ?_⟩
    rw [count, ticks]
    have none : extra = 0 := counts.resolve_right fun counts => leap counts.1
    omega

end Time.Instant

namespace Feed.Cache

theorem find?_put (key : String) (e : CacheEntry) (searches : List (String × CacheEntry)) :
    (put key e searches).find? (fun (k, _) => k = key) = some (key, e) := by
  induction searches with
  | nil => simp [put]
  | cons pair rest ih =>
    obtain ⟨k, f⟩ := pair
    by_cases same : k = key
    · simp [put, same]
    · rw [put, if_neg same, List.find?_cons_of_neg (by simpa using same), ih]

theorem search_storeSearch (c : Cache) (key : String) (videos : List Video) (token : Option String)
    (stored now : Instant) :
    ((c.storeSearch key videos token stored).search key now).1 =
      if c.ttl < now.since stored then none else some ⟨stored, videos, token⟩ := by
  let e : CacheEntry := ⟨stored, videos, token⟩
  have ttl : (c.storeSearch key videos token stored).ttl = c.ttl := rfl
  have found : searchEntry? (c.storeSearch key videos token stored) key = some e := by
    unfold searchEntry? storeSearch
    rw [find?_put, Option.map_some]
  rw [search, found]
  dsimp only
  rw [ttl, apply_ite Prod.fst]
  rfl

/-- What is stored for a search is found for as long as that. -/
def KeepsFor (c : Cache) (lifetime : Duration) : Prop :=
  ∀ key videos token stored d now, d ≤ lifetime → stored.plus? d = some now →
    ((c.storeSearch key videos token stored).search key now).1 = some ⟨stored, videos, token⟩

/-- What is stored for a search is not found again, not even at once. -/
def KeepsNothing (c : Cache) : Prop :=
  ∀ key videos token stored d now, 0 ≤ d → stored.plus? d = some now →
    ((c.storeSearch key videos token stored).search key now).1 = none

theorem keepsFor_ttl {c : Cache} (possible : 0 ≤ c.ttl) : c.KeepsFor c.ttl := by
  intro key videos token stored d now short moved
  obtain ⟨gap, since, most, -⟩ := Instant.since_plus? moved
  rw [search_storeSearch, if_neg]
  rw [since]
  exact not_lt.mpr (le_trans most (max_le short possible))

theorem keepsNothing_of_negative {c : Cache} (negative : c.ttl ≤ Duration.ofSeconds (-1)) :
    c.KeepsNothing := by
  intro key videos token stored d now later moved
  obtain ⟨gap, since, -, least⟩ := Instant.since_plus? moved
  rw [search_storeSearch, if_pos]
  rw [since]
  exact lt_of_le_of_lt negative (least later)

end Feed.Cache

namespace Settings

theorem signedCacheSeconds_eq {s : Settings} (fits : s.cacheSeconds < 2 ^ 64) :
    s.signedCacheSeconds =
      if s.cacheSeconds < 2 ^ 63 then (s.cacheSeconds : Int) else s.cacheSeconds - 2 ^ 64 := by
  have size : Nat.pow 2 64 = 18446744073709551616 := by decide
  unfold signedCacheSeconds
  simp only [size, Int.bmod_def]
  split_ifs <;> omega

/-- The most seconds whose milliseconds fit 64 bits. -/
def mostCacheSeconds : Nat := 9223372036854775

theorem cacheTtl?_eq {s : Settings} (fits : s.cacheSeconds < 2 ^ 64) :
    s.cacheTtl? =
      if s.cacheSeconds ≤ mostCacheSeconds then some (Duration.ofSeconds s.cacheSeconds)
      else if s.cacheSeconds < 2 ^ 64 - mostCacheSeconds then none
      else some (Duration.ofSeconds (s.cacheSeconds - 2 ^ 64)) := by
  rw [cacheTtl?, signedCacheSeconds_eq fits]
  unfold mostCacheSeconds
  split_ifs <;> first | rfl | omega

def Starts (s : Settings) (ttl : Duration) : Prop :=
  ∀ file, ∃ site memory, Service.start? s file = some (site, memory) ∧ memory.cache.ttl = ttl

theorem starts_of_ttl {s : Settings} {ttl : Duration} (given : s.cacheTtl? = some ttl) : s.Starts ttl := by
  intro file
  rw [Service.start?, given]
  exact ⟨_, _, rfl, rfl⟩

theorem start?_eq_none {s : Settings} (impossible : s.cacheTtl? = none) (file : Option Feed.CacheFile) :
    Service.start? s file = none := by
  rw [Service.start?, impossible]
  rfl

/-- As long as the seconds in the settings are not too many, the service starts, and an answer is found
until they have passed. With too many of them it does not start. The largest numbers of 64 bits
count as negative: the service starts, and no answer is found again. -/
theorem lifetime_kept_unless_wrapped (s : Settings) (fits : s.cacheSeconds < 2 ^ 64) :
    let lifetime := Duration.ofSeconds s.cacheSeconds
    (s.cacheSeconds ≤ mostCacheSeconds →
      s.cacheTtl? = some lifetime ∧ 0 ≤ lifetime ∧ s.Starts lifetime ∧
        ∀ cache : Feed.Cache, cache.ttl = lifetime → cache.KeepsFor lifetime) ∧
    (mostCacheSeconds < s.cacheSeconds → s.cacheSeconds < 2 ^ 64 - mostCacheSeconds →
      s.cacheTtl? = none ∧ ∀ file, Service.start? s file = none) ∧
    (2 ^ 64 - mostCacheSeconds ≤ s.cacheSeconds →
      ∃ ttl, s.cacheTtl? = some ttl ∧ ttl < 0 ∧ s.Starts ttl ∧
        ∀ cache : Feed.Cache, cache.ttl = ttl → cache.KeepsNothing) := by
  intro lifetime
  have given := cacheTtl?_eq fits
  refine ⟨fun few => ?few, fun many some => ?many, fun most => ?most⟩
  case few =>
    rw [if_pos few] at given
    have possible : 0 ≤ lifetime := Int.mul_nonneg (Int.natCast_nonneg _) (by decide)
    refine ⟨given, possible, starts_of_ttl given, fun cache ttl => ?_⟩
    rw [← ttl] at possible ⊢
    exact Feed.Cache.keepsFor_ttl possible
  case many =>
    rw [if_neg (Nat.not_le.mpr many), if_pos some] at given
    exact ⟨given, start?_eq_none given⟩
  case most =>
    have many : ¬ s.cacheSeconds ≤ mostCacheSeconds := by
      unfold mostCacheSeconds at most ⊢
      omega
    rw [if_neg many, if_neg (Nat.not_lt.mpr most)] at given
    have negative : Duration.ofSeconds (s.cacheSeconds - 2 ^ 64) ≤ Duration.ofSeconds (-1) :=
      Int.mul_le_mul_of_nonneg_right (by omega) (by decide)
    refine ⟨_, given, lt_of_le_of_lt negative (by decide), starts_of_ttl given, fun cache ttl => ?_⟩
    rw [← ttl] at negative
    exact Feed.Cache.keepsNothing_of_negative negative

def lasting (seconds : Nat) : Settings where
  isDebug := false
  hasApiDocs := true
  listenOn := 8080
  channelUrl := defaultChannelUrl
  channelKey := none
  channelId := none
  cacheSeconds := seconds
  cacheFile := none
  storeUrl := none
  storeKey := none
  resetRedirect := none

/-- The last second of a day that has a leap second, in that leap second, and ten minutes later. -/
def leapMidnight : Instant := ⟨1341100799, 1250000000, by decide, by decide⟩
def tenPastLeap : Instant := ⟨1341101399, 250000000, by decide, by decide⟩

theorem leap_answer_found_after_ten_minutes :
    (lasting 600).cacheSeconds < 2 ^ 64 ∧ (lasting 600).cacheSeconds ≤ mostCacheSeconds ∧
      leapMidnight.plus? (Duration.ofSeconds 600) = some tenPastLeap ∧
      let cache := Feed.Cache.new (Duration.ofSeconds 600) none
      ((cache.storeSearch "key" [] none leapMidnight).search "key" tenPastLeap).1 =
        some ⟨leapMidnight, [], none⟩ := by
  refine ⟨by decide, by decide, by decide, ?_⟩
  intro cache
  obtain ⟨few, -, -⟩ := lifetime_kept_unless_wrapped (lasting 600) (by decide)
  obtain ⟨-, -, -, keeps⟩ := few (by decide)
  exact keeps cache rfl "key" [] none leapMidnight (Duration.ofSeconds 600) tenPastLeap (by decide) (by decide)

/-- A lifetime that is set for ever keeps the service from starting, or lets it forget at once. -/
theorem endless_lifetimes_fail :
    let read (text : String) :=
      (ofEnvironment [("APP_YOUTUBE_CACHE_TTL_SECS", text)]).toOption.map fun s =>
        (s.cacheSeconds, s.cacheTtl?)
    read "9223372036854775807" = some (2 ^ 63 - 1, none) ∧
      read "18446744073709551615" = some (2 ^ 64 - 1, some (Duration.ofSeconds (-1))) ∧
      let cache := Feed.Cache.new (Duration.ofSeconds (-1)) none
      ((cache.storeSearch "key" [] none leapMidnight).search "key" leapMidnight).1 = none := by
  decide +kernel

end Settings
end ParishSite
