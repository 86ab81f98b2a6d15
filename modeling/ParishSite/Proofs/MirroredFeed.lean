import ParishSite.Proofs.LatestSlot

/-! What the file of the latest page changes while the service runs. As long as the file can be written
and nobody else touches it, looks are answered with the page that was stored last, with a file and
without one. Only a page whose age is the ttl to the nanosecond is still read from the file when it is no
longer taken from memory. -/

namespace ParishSite.Feed.Cache

open Time (Instant Duration)

def Happening.stored? : Happening → Option CacheEntry
  | store videos token now => some ⟨now, videos, token⟩
  | look _ | swap _ => none

def lastStored? (past : List Happening) : Option CacheEntry :=
  past.reverse.findSome? Happening.stored?

theorem lastStored?_snoc (past : List Happening) (last : Happening) :
    lastStored? (past ++ [last]) = last.stored?.or (lastStored? past) := by
  rw [lastStored?, List.reverse_append, List.reverse_singleton, List.singleton_append,
    List.findSome?_cons]
  cases last.stored? <;> rfl

theorem latest_unfiled {c : Cache} (unfiled : c.file = none) (now : Instant) :
    c.latest now = (c.memory.filter fun e => e.age now < c.ttl, c) := by
  have looks := c.latest_looks now
  cases answer : c.latest now with
  | mk found kept =>
  rw [answer] at looks
  cases looks with
  | remembered held young => rw [held, Option.filter_some, if_pos (by simpa using young)]
  | restored _ filed =>
    rw [filed?, unfiled] at filed
    cases filed
  | vain stale =>
    have outdated : c.memory.filter (fun e => e.age now < c.ttl) = none := by
      refine Option.filter_eq_none_iff.mpr fun e held => ?_
      simpa using stale e held
    rw [outdated]

theorem after_unfiled {c : Cache} (unfiled : c.file = none) (happening : Happening) :
    (c.after happening).file = none ∧ (c.after happening).memory = happening.stored?.or c.memory := by
  cases happening with
  | store videos token now =>
    refine ⟨?_, rfl⟩
    rw [after, storeLatest, unfiled, Option.map_none]
  | swap file =>
    refine ⟨?_, rfl⟩
    rw [after, unfiled, Option.map_none]
  | look now =>
    rw [after, latest_unfiled unfiled]
    exact ⟨unfiled, rfl⟩

/-- Without a file, memory holds the page that was stored last. -/
theorem course_unfiled (ttl : Duration) (past : List Happening) :
    ((new ttl none).course past).file = none ∧
      ((new ttl none).course past).memory = lastStored? past := by
  induction past using List.reverseRecOn with
  | nil => exact ⟨rfl, rfl⟩
  | append_singleton past last ih =>
    rw [course_snoc, lastStored?_snoc, ← ih.2]
    exact after_unfiled ih.1 last

/-- The file can be written, and what is in memory is in the file as well. -/
structure Mirrored (c : Cache) : Prop where
  writable : ∃ file, c.file = some file ∧ file.isWritable = true
  filed : ∀ e, c.memory = some e → c.filed? = some e

theorem Mirrored.new (ttl : Duration) (contents : Option (List UInt8)) :
    (Cache.new ttl (some ⟨contents, true⟩)).Mirrored :=
  ⟨⟨_, rfl, rfl⟩, fun _ held => nomatch held⟩

theorem Mirrored.latest {c : Cache} (mirrored : c.Mirrored) (now : Instant) :
    (c.latest now).1 = c.filed?.filter (fun e => e.age now ≤ c.ttl) ∧
      (c.latest now).2.Mirrored ∧ (c.latest now).2.filed? = c.filed? := by
  have looks := c.latest_looks now
  cases answer : c.latest now with
  | mk found kept =>
  rw [answer] at looks
  cases looks with
  | remembered held young =>
    rw [mirrored.filed _ held, Option.filter_some, if_pos (by simpa using le_of_lt young)]
    exact ⟨rfl, mirrored, rfl⟩
  | @restored e _ filed fresh =>
    have same : ({ c with memory := some e } : Cache).filed? = c.filed? := rfl
    refine ⟨?found, ⟨mirrored.writable, ?filed⟩, same⟩
    case found => rw [filed, Option.filter_some, if_pos (by simpa using fresh)]
    case filed =>
      rintro _ ⟨⟩
      exact same.trans filed
  | vain _ outdated =>
    refine ⟨Eq.symm (Option.filter_eq_none_iff.mpr fun e filed => ?_), mirrored, rfl⟩
    simpa using outdated e filed

theorem Mirrored.after {c : Cache} (mirrored : c.Mirrored) {happening : Happening}
    (undisturbed : ∀ file, happening ≠ .swap file) :
    (c.after happening).Mirrored ∧ (c.after happening).filed? = happening.stored?.or c.filed? := by
  cases happening with
  | swap file => exact absurd rfl (undisturbed file)
  | look now => exact (mirrored.latest now).2
  | store videos token now =>
    obtain ⟨file, named, writable⟩ := mirrored.writable
    have filed := filed?_storeLatest named writable videos token now
    refine ⟨⟨?kept, ?mirrored⟩, filed⟩
    case kept =>
      let e : CacheEntry := ⟨now, videos, token⟩
      refine ⟨file.replaced e.toBytes, congrArg (Option.map _) named, ?_⟩
      rw [CacheFile.replaced, if_pos writable]
      exact writable
    case mirrored =>
      rintro _ ⟨⟩
      exact filed

/-- With a file, the file holds the page that was stored last, or what it held at the start. -/
theorem course_mirrored (ttl : Duration) (contents : Option (List UInt8)) {past : List Happening}
    (undisturbed : ∀ file, .swap file ∉ past) :
    let file : CacheFile := ⟨contents, true⟩
    ((new ttl (some file)).course past).Mirrored ∧
      ((new ttl (some file)).course past).filed? = (lastStored? past).or file.entry? := by
  intro file
  induction past using List.reverseRecOn with
  | nil => exact ⟨Mirrored.new ttl contents, rfl⟩
  | append_singleton past last ih =>
    obtain ⟨mirrored, filed⟩ := ih fun file member => undisturbed file (List.mem_append_left _ member)
    have own : ∀ file, last ≠ .swap file := by
      rintro file rfl
      exact undisturbed file (List.mem_append_right _ (List.mem_singleton_self _))
    obtain ⟨mirrored, next⟩ := mirrored.after own
    rw [course_snoc, lastStored?_snoc, Option.or_assoc, ← filed]
    exact ⟨mirrored, next⟩

/-- The two ways to tell whether a page is too old disagree about one age only. -/
theorem filter_age_eq_iff (page : Option CacheEntry) (now : Instant) (ttl : Duration) :
    page.filter (fun e => e.age now ≤ ttl) = page.filter (fun e => e.age now < ttl) ↔
      ∀ e, page = some e → e.age now ≠ ttl := by
  cases page with
  | none => exact iff_of_true rfl fun _ none => nomatch none
  | some e =>
    rw [Option.filter_some, Option.filter_some]
    rcases lt_trichotomy (e.age now) ttl with young | same | old
    · simp [young, young.le, young.ne]
    · simp [same]
    · simp [old.not_ge, old.not_gt, old.ne']

/-- Looks are answered with the page that was stored last, for as long as the ttl allows. A file that
nobody else touches answers just as memory alone does, unless the age of that page is the ttl itself: then
it is found in the file, and memory alone has nothing. -/
theorem file_shown_only_at_ttl (ttl : Duration) (contents : Option (List UInt8))
    {past : List Happening} (undisturbed : ∀ file, .swap file ∉ past) (now : Instant) :
    let file : CacheFile := ⟨contents, true⟩
    let alone := (((new ttl none).course past).latest now).1
    let filed := (((new ttl (some file)).course past).latest now).1
    alone = (lastStored? past).filter (fun e => e.age now < ttl) ∧
    filed = ((lastStored? past).or file.entry?).filter (fun e => e.age now ≤ ttl) ∧
    (file.entry? = none → (filed = alone ↔ ∀ e, lastStored? past = some e → e.age now ≠ ttl)) := by
  intro file alone filed
  obtain ⟨unfiled, memory⟩ := course_unfiled ttl past
  obtain ⟨mirrored, kept⟩ := course_mirrored ttl contents undisturbed
  have first : alone = (lastStored? past).filter fun e => e.age now < ttl := by
    have answer := congrArg Prod.fst (latest_unfiled unfiled now)
    rwa [memory, course_ttl] at answer
  have second : filed = ((lastStored? past).or file.entry?).filter fun e => e.age now ≤ ttl := by
    have answer := (mirrored.latest now).1
    rwa [kept, course_ttl] at answer
  refine ⟨first, second, fun empty => ?_⟩
  rw [first, second, empty, Option.or_none]
  exact filter_age_eq_iff _ now ttl

/-- The start of a day, the last nanosecond before ten past, and ten past. -/
def midnight : Instant := ⟨86400, 0, by decide, by decide⟩
def nearlyTenPast : Instant := ⟨86999, 999999999, by decide, by decide⟩
def tenPast : Instant := ⟨87000, 0, by decide, by decide⟩

def storedAtMidnight : List Happening := [.store [] (some "next") midnight, .look midnight]

theorem storedAtMidnight_undisturbed (file : CacheFile) : .swap file ∉ storedAtMidnight := by
  simp [storedAtMidnight]

theorem young_page_shown_alike :
    let ttl := Duration.ofSeconds 600
    let fresh : CacheFile := ⟨none, true⟩
    let alone := (((new ttl none).course storedAtMidnight).latest nearlyTenPast).1
    let filed := (((new ttl (some fresh)).course storedAtMidnight).latest nearlyTenPast).1
    (∀ file, .swap file ∉ storedAtMidnight) ∧ fresh.entry? = none ∧ filed = alone ∧
      alone = some ⟨midnight, [], some "next"⟩ := by
  intro ttl fresh alone filed
  obtain ⟨answer, -, same⟩ := file_shown_only_at_ttl ttl none storedAtMidnight_undisturbed nearlyTenPast
  refine ⟨storedAtMidnight_undisturbed, rfl, (same rfl).mpr ?_, answer.trans rfl⟩
  rintro _ ⟨⟩
  decide

/-- With a ttl of ten minutes, a page that is ten minutes old is no longer in memory and still in the
file, though the clock only moved on and nobody else touched the file. -/
theorem page_at_ttl_only_in_file :
    let ttl := Duration.ofSeconds 600
    midnight.isBefore tenPast = true ∧
      (((new ttl none).course storedAtMidnight).latest tenPast).1 = none ∧
      (((new ttl (some ⟨none, true⟩)).course storedAtMidnight).latest tenPast).1 =
        some ⟨midnight, [], some "next"⟩ := by
  intro ttl
  obtain ⟨mirrored, kept⟩ := course_mirrored ttl none storedAtMidnight_undisturbed
  refine ⟨by decide, by decide, (mirrored.latest tenPast).1.trans ?_⟩
  rw [kept, course_ttl]
  rfl

end ParishSite.Feed.Cache
