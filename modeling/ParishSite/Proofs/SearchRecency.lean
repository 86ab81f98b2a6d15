import Mathlib.Data.Finset.Card
import Mathlib.Data.List.Induction
import ParishSite.Proofs.CacheSearches
import ParishSite.Proofs.InstantOrder

/-! The cache of searches against an ideal record, which forgets nothing: it holds the last answer of
every key, and the keys that were answered after it. The cache finds an answer exactly while it is
young enough and fewer than 256 other keys came after it. -/

namespace ParishSite.Feed
open Time (Instant Duration)

inductive SearchStep
  | store (key : String) (videos : List Video) (nextPageToken : Option String) (now : Instant)
  | search (key : String) (now : Instant)

namespace SearchStep

def now : SearchStep → Instant
  | store _ _ _ now | search _ now => now

def apply (c : Cache) : SearchStep → Cache
  | store key videos nextPageToken now => c.storeSearch key videos nextPageToken now
  | search key now => (c.search key now).2

def run (c : Cache) (steps : List SearchStep) : Cache := steps.foldl apply c

def storedKey? : SearchStep → Option String
  | store key _ _ _ => some key
  | search _ _ => none

def storedKeys (steps : List SearchStep) : List String := steps.filterMap storedKey?

@[simp] theorem storedKeys_nil : storedKeys [] = [] := rfl

@[simp] theorem storedKeys_search (key : String) (now : Instant) (steps : List SearchStep) :
    storedKeys (.search key now :: steps) = storedKeys steps := rfl

@[simp] theorem storedKeys_store (key : String) (videos : List Video) (nextPageToken : Option String)
    (now : Instant) (steps : List SearchStep) :
    storedKeys (.store key videos nextPageToken now :: steps) = key :: storedKeys steps := rfl

end SearchStep

open SearchStep

/-- An answer, and the other keys that were answered after it. -/
structure Recorded where
  entry : CacheEntry
  since : Finset String

abbrev SearchRecord := String → Option Recorded

namespace SearchRecord

def apply (record : SearchRecord) : SearchStep → SearchRecord
  | .search _ _ => record
  | .store key videos nextPageToken now => fun k =>
    if k = key then some ⟨⟨now, videos, nextPageToken⟩, ∅⟩
    else (record k).map fun kept => { kept with since := insert key kept.since }

def run (record : SearchRecord) (steps : List SearchStep) : SearchRecord := steps.foldl apply record

def empty : SearchRecord := fun _ => none

/-- What steps say of a key: the last time it was answered, and the keys that were answered later. -/
def Says (steps : List SearchStep) (key : String) (kept : Recorded) : Prop :=
  ∃ earlier later, steps = earlier ++
      .store key kept.entry.videos kept.entry.nextPageToken kept.entry.timestamp :: later ∧
    key ∉ storedKeys later ∧ kept.since = (storedKeys later).toFinset

private theorem says_cons (step : SearchStep) (steps : List SearchStep) (key : String)
    (kept : Recorded) :
    Says (step :: steps) key kept ↔
      Says steps key kept ∨
        step = .store key kept.entry.videos kept.entry.nextPageToken kept.entry.timestamp ∧
          key ∉ storedKeys steps ∧ kept.since = (storedKeys steps).toFinset := by
  constructor
  · intro ⟨earlier, later, same, absent, since⟩
    cases earlier with
    | nil =>
      obtain ⟨rfl, rfl⟩ := List.cons.inj same
      exact Or.inr ⟨rfl, absent, since⟩
    | cons first earlier =>
      obtain ⟨-, rfl⟩ := List.cons.inj same
      exact Or.inl ⟨earlier, later, rfl, absent, since⟩
  · rintro (⟨earlier, later, rfl, absent, since⟩ | ⟨rfl, absent, since⟩)
    · exact ⟨step :: earlier, later, rfl, absent, since⟩
    · exact ⟨[], steps, rfl, absent, since⟩

/-- A record after some steps holds what the steps say of a key, or what it held before. -/
theorem run_eq_some_iff (record : SearchRecord) (steps : List SearchStep) (key : String)
    (kept : Recorded) :
    record.run steps key = some kept ↔
      Says steps key kept ∨
        key ∉ storedKeys steps ∧ ∃ before, record key = some before ∧
          kept = { before with since := before.since ∪ (storedKeys steps).toFinset } := by
  induction steps generalizing record with
  | nil =>
    have silent : ¬ Says [] key kept := by
      intro ⟨earlier, later, same, _⟩
      cases earlier <;> cases same
    simp only [run, List.foldl_nil, silent, storedKeys_nil, List.not_mem_nil, not_false_eq_true,
      true_and, false_or, List.toFinset_nil, Finset.union_empty]
    exact ⟨fun held => ⟨kept, held, rfl⟩, fun ⟨_, held, same⟩ => same ▸ held⟩
  | cons step steps ih =>
    rw [says_cons]
    change (record.apply step).run steps key = some kept ↔ _
    rw [ih]
    cases step with
    | search k now =>
      have other : ¬ (SearchStep.search k now = .store key kept.entry.videos
          kept.entry.nextPageToken kept.entry.timestamp) := fun equal => by cases equal
      simp only [apply, storedKeys_search, other, false_and, or_false]
    | store k videos nextPageToken now =>
      by_cases same : key = k
      · subst same
        simp only [apply, storedKeys_store, if_true, List.mem_cons, true_or, not_true, false_and, or_false]
        refine or_congr_right ⟨?_, ?_⟩
        · rintro ⟨absent, before, held, rfl⟩
          cases held
          exact ⟨rfl, absent, by simp⟩
        · intro ⟨equal, absent, since⟩
          obtain ⟨⟨timestamp, videos, token⟩, since'⟩ := kept
          cases equal
          exact ⟨absent, _, rfl, by simpa using since⟩
      · have other : ¬ (SearchStep.store k videos nextPageToken now = .store key kept.entry.videos
            kept.entry.nextPageToken kept.entry.timestamp) := by
          intro equal
          cases equal
          exact same rfl
        simp only [apply, storedKeys_store, same, if_false, other, false_and, or_false,
          List.mem_cons, false_or, Option.map_eq_some_iff]
        refine or_congr_right (and_congr_right fun _ => ⟨?_, ?_⟩)
        · rintro ⟨_, ⟨before, held, rfl⟩, rfl⟩
          exact ⟨before, held, by simp [Finset.insert_union]⟩
        · rintro ⟨before, held, rfl⟩
          exact ⟨_, ⟨before, held, rfl⟩, by simp [Finset.insert_union]⟩

theorem apply_store_same (record : SearchRecord) (key : String) (videos : List Video)
    (nextPageToken : Option String) (now : Instant) :
    record.apply (.store key videos nextPageToken now) key =
      some ⟨⟨now, videos, nextPageToken⟩, ∅⟩ := by
  simp [apply]

theorem apply_store_cases {record : SearchRecord} {key k : String} {videos : List Video}
    {nextPageToken : Option String} {now : Instant} {kept : Recorded}
    (held : record.apply (.store key videos nextPageToken now) k = some kept) :
    k = key ∧ kept = ⟨⟨now, videos, nextPageToken⟩, ∅⟩ ∨
      k ≠ key ∧ ∃ before, record k = some before ∧
        kept = ⟨before.entry, insert key before.since⟩ := by
  by_cases same : k = key
  · subst same
    cases (apply_store_same record k videos nextPageToken now).symm.trans held
    exact Or.inl ⟨rfl, rfl⟩
  · obtain ⟨before, found, rfl⟩ := Option.map_eq_some_iff.mp (by simpa [apply, same] using held)
    exact Or.inr ⟨same, before, found, rfl⟩

theorem apply_store_keeps {record : SearchRecord} {key k : String} (videos : List Video)
    (nextPageToken : Option String) (now : Instant) {kept : Recorded} (other : k ≠ key)
    (held : record k = some kept) :
    record.apply (.store key videos nextPageToken now) k =
      some { kept with since := insert key kept.since } := by
  simp [apply, other, held]

/-- No two answers of a record are of one time, none is of a later time than `now`, and those that
came after an answer are those of a later time. -/
structure Ordered (record : SearchRecord) (now : Int) : Prop where
  ordinary : ∀ {key kept}, record key = some kept → kept.entry.timestamp.isLeap = false
  past : ∀ {key kept}, record key = some kept → kept.entry.timestamp.ticks ≤ now
  apart : ∀ {key other kept later}, record key = some kept → record other = some later →
    kept.entry.timestamp.ticks = later.entry.timestamp.ticks → key = other
  since : ∀ {key kept}, record key = some kept → ∀ other, other ∈ kept.since ↔
    other ≠ key ∧ ∃ later, record other = some later ∧
      kept.entry.timestamp.ticks < later.entry.timestamp.ticks

theorem Ordered.empty (now : Int) : empty.Ordered now := by
  constructor <;> intros <;> contradiction

theorem Ordered.mono {record : SearchRecord} {now later : Int} (ordered : record.Ordered now)
    (growth : now ≤ later) : record.Ordered later :=
  ⟨ordered.ordinary, fun held => Int.le_trans (ordered.past held) growth, ordered.apart,
    ordered.since⟩

theorem Ordered.apply {record : SearchRecord} {now : Int} (ordered : record.Ordered now)
    {step : SearchStep} (ordinary : step.now.isLeap = false) (growth : now < step.now.ticks) :
    (record.apply step).Ordered step.now.ticks := by
  cases step with
  | search key time => exact ordered.mono (Int.le_of_lt growth)
  | store key videos nextPageToken time =>
    have older {k} (kept : Recorded) (held : record k = some kept) :
        kept.entry.timestamp.ticks < time.ticks := Int.lt_of_le_of_lt (ordered.past held) growth
    have added := apply_store_same record key videos nextPageToken time
    constructor
    · intro k kept held
      rcases apply_store_cases held with ⟨rfl, rfl⟩ | ⟨-, before, found, rfl⟩
      · exact ordinary
      · have plain := ordered.ordinary found
        exact plain
    · intro k kept held
      rcases apply_store_cases held with ⟨rfl, rfl⟩ | ⟨-, before, found, rfl⟩
      · exact Int.le_refl _
      · exact Int.le_of_lt (older before found)
    · intro k other kept later held heldLater equal
      rcases apply_store_cases held with ⟨rfl, rfl⟩ | ⟨-, before, found, rfl⟩
      · rcases apply_store_cases heldLater with ⟨rfl, rfl⟩ | ⟨-, before, found, rfl⟩
        · rfl
        · exact absurd equal (Int.ne_of_gt (older before found))
      · rcases apply_store_cases heldLater with ⟨rfl, rfl⟩ | ⟨-, before', found', rfl⟩
        · exact absurd equal (Int.ne_of_lt (older before found))
        · exact ordered.apart found found' equal
    · intro k kept held other
      rcases apply_store_cases held with ⟨rfl, rfl⟩ | ⟨different, before, found, rfl⟩
      · refine iff_of_false (Finset.notMem_empty _) ?_
        intro ⟨different, later, heldLater, less⟩
        rcases apply_store_cases heldLater with ⟨same, -⟩ | ⟨-, before, found, rfl⟩
        · exact different same
        · exact Int.lt_asymm less (older before found)
      rw [Finset.mem_insert]
      by_cases same : other = key
      · subst same
        exact iff_of_true (Or.inl rfl) ⟨fun equal => different equal.symm, _, added, older before found⟩
      · rw [or_iff_right same, ordered.since found other]
        refine and_congr_right fun _ => ⟨?_, ?_⟩
        · intro ⟨later, heldLater, less⟩
          exact ⟨_, apply_store_keeps videos nextPageToken time same heldLater, less⟩
        · intro ⟨later, heldLater, less⟩
          rcases apply_store_cases heldLater with ⟨equal, -⟩ | ⟨-, before', found', rfl⟩
          · exact absurd equal same
          · exact ⟨before', found', less⟩

end SearchRecord

namespace Cache
open SearchRecord

/-- The cache holds answers of the record alone, finds every answer that is young and has fewer than
256 others after it, and holds nothing young without holding all that came after it. -/
structure Follows (c : Cache) (record : SearchRecord) (now : Int) : Prop where
  distinct : (keys c.searches).Nodup
  bounded : c.searches.length ≤ maxSearches
  recorded : ∀ {key e}, (key, e) ∈ c.searches → ∃ kept, record key = some kept ∧ kept.entry = e
  found : ∀ {key kept}, record key = some kept → now - kept.entry.timestamp.ticks ≤ c.ttl →
    kept.since.card < maxSearches → (key, kept.entry) ∈ c.searches
  closed : ∀ {key kept}, record key = some kept → (key, kept.entry) ∈ c.searches →
    now - kept.entry.timestamp.ticks ≤ c.ttl → ∀ other ∈ kept.since, other ∈ keys c.searches

theorem Follows.new (ttl : Duration) (file : Option CacheFile) (now : Int) :
    (Cache.new ttl file).Follows empty now := by
  refine ⟨List.nodup_nil, Nat.zero_le _, ?_, ?_, ?_⟩
  · intro key e held
    cases held
  · intro key kept held
    cases held
  · intro key kept held
    cases held

theorem Follows.mono {c : Cache} {record : SearchRecord} {now later : Int}
    (follows : c.Follows record now) (growth : now ≤ later) : c.Follows record later :=
  ⟨follows.distinct, follows.bounded, follows.recorded,
    fun held young few => follows.found held (by omega) few,
    fun held member young => follows.closed held member (by omega)⟩

theorem Follows.young_iff {c : Cache} {record : SearchRecord} {now : Int} {key : String}
    {e : CacheEntry} {time : Instant} (follows : c.Follows record now) (ordered : record.Ordered now)
    (ordinary : time.isLeap = false) (held : (key, e) ∈ c.searches) :
    e.age time ≤ c.ttl ↔ time.ticks - e.timestamp.ticks ≤ c.ttl := by
  obtain ⟨kept, recorded, rfl⟩ := follows.recorded held
  unfold CacheEntry.age
  rw [Instant.since_ticks ordinary (ordered.ordinary recorded)]

theorem Follows.entry_eq {c : Cache} {record : SearchRecord} {now : Int} {key : String}
    {e : CacheEntry} {kept : Recorded} (follows : c.Follows record now)
    (recorded : record key = some kept) (held : (key, e) ∈ c.searches) : e = kept.entry := by
  obtain ⟨kept', recorded', rfl⟩ := follows.recorded held
  rw [recorded] at recorded'
  cases recorded'
  rfl

/-- Fewer than 256 keys came after an answer that is held and young, as all of them are held too. -/
theorem Follows.few {c : Cache} {record : SearchRecord} {now : Int} {key : String} {kept : Recorded}
    (follows : c.Follows record now) (ordered : record.Ordered now)
    (recorded : record key = some kept) (held : (key, kept.entry) ∈ c.searches)
    (young : now - kept.entry.timestamp.ticks ≤ c.ttl) : kept.since.card < maxSearches := by
  have included : insert key kept.since ⊆ (keys c.searches).toFinset := by
    intro other member
    rw [List.mem_toFinset]
    rcases Finset.mem_insert.mp member with rfl | member
    · exact mem_keys.mpr ⟨_, held⟩
    · exact follows.closed recorded held young other member
  have absent : key ∉ kept.since := fun member => ((ordered.since recorded key).mp member).1 rfl
  have size := Finset.card_le_card included
  rw [Finset.card_insert_of_notMem absent, List.toFinset_card_of_nodup follows.distinct] at size
  have bounded := follows.bounded
  simp only [keys, List.length_map] at size
  omega

theorem Follows.search {c : Cache} {record : SearchRecord} {now : Int}
    (follows : c.Follows record now) (ordered : record.Ordered now) (key : String) {time : Instant}
    (ordinary : time.isLeap = false) (growth : now ≤ time.ticks) :
    (c.search key time).2.Follows record time.ticks := by
  have later := follows.mono growth
  unfold Cache.search
  split
  · exact later
  next e seen =>
    have member := (searchEntry_some_iff follows.distinct).mp seen
    split
    next stale =>
      have old : ¬ time.ticks - e.timestamp.ticks ≤ c.ttl := by
        rw [← follows.young_iff ordered ordinary member]
        exact Int.not_le.mpr stale
      refine ⟨later.distinct.sublist (keys_without_sublist _ _),
        Nat.le_trans (List.length_filter_le _ _) later.bounded, ?_, ?_, ?_⟩
      · exact fun held => later.recorded (mem_without.mp held).1
      · intro k kept recorded young few
        refine mem_without.mpr ⟨later.found recorded young few, ?_⟩
        rintro rfl
        exact old (later.entry_eq recorded member ▸ young)
      · intro k kept recorded held young other after
        have still := later.closed recorded (mem_without.mp held).1 young other after
        obtain ⟨f, inside⟩ := mem_keys.mp still
        refine mem_keys.mpr ⟨f, mem_without.mpr ⟨inside, ?_⟩⟩
        -- what came later than a young answer is young itself, and so not what was dropped
        rintro rfl
        obtain ⟨-, kept', recorded', less⟩ := (ordered.since recorded other).mp after
        have same := later.entry_eq recorded' member
        rw [same] at old
        change time.ticks - kept.entry.timestamp.ticks ≤ c.ttl at young
        omega
    · exact later

/-- An answer that has to go has at least 256 others after it. -/
theorem Follows.evicted_many {c : Cache} {record : SearchRecord} {now : Int}
    (follows : c.Follows record now) (ordered : record.Ordered now) {key k : String}
    {time : Instant} {kept : Recorded} (evicts : c.Evicts key time k)
    (recorded : record k = some kept) :
    maxSearches ≤ (insert key kept.since).card := by
  obtain ⟨full, unknown, oldest⟩ := evicts
  obtain ⟨e, member, least⟩ := oldestKey?_oldest oldest
  have same := follows.entry_eq recorded (mem_fresh.mp member).1
  subst same
  have included : insert key ((keys (c.fresh time)).toFinset.erase k) ⊆ insert key kept.since := by
    refine Finset.insert_subset_insert _ fun other inside => ?_
    obtain ⟨different, inside⟩ := Finset.mem_erase.mp inside
    obtain ⟨f, held⟩ := mem_keys.mp (List.mem_toFinset.mp inside)
    obtain ⟨kept', recorded', rfl⟩ := follows.recorded (mem_fresh.mp held).1
    refine (ordered.since recorded other).mpr ⟨different, kept', recorded', ?_⟩
    have notBefore := least other _ held
    have notLess : ¬ kept'.entry.timestamp.ticks < kept.entry.timestamp.ticks := by
      rw [← Instant.isBefore_ticks (ordered.ordinary recorded') (ordered.ordinary recorded), notBefore]
      exact Bool.false_ne_true
    have apart : kept.entry.timestamp.ticks ≠ kept'.entry.timestamp.ticks :=
      fun equal => different (ordered.apart recorded recorded' equal).symm
    omega
  have distinct : (keys (c.fresh time)).Nodup := follows.distinct.sublist (c.fresh_keys_sublist time)
  have present : k ∈ (keys (c.fresh time)).toFinset :=
    List.mem_toFinset.mpr (mem_keys.mpr ⟨_, member⟩)
  have absent : key ∉ (keys (c.fresh time)).toFinset.erase k :=
    fun inside => unknown (List.mem_toFinset.mp (Finset.mem_of_mem_erase inside))
  have size := Finset.card_le_card included
  rw [Finset.card_insert_of_notMem absent, Finset.card_erase_of_mem present,
    List.toFinset_card_of_nodup distinct] at size
  simp only [keys, List.length_map] at size
  unfold maxSearches at *
  omega

theorem Follows.store {c : Cache} {record : SearchRecord} {now : Int}
    (follows : c.Follows record now) (ordered : record.Ordered now) (key : String)
    (videos : List Video) (nextPageToken : Option String) {time : Instant}
    (ordinary : time.isLeap = false) (growth : now < time.ticks) :
    (c.storeSearch key videos nextPageToken time).Follows
      (record.apply (.store key videos nextPageToken time)) time.ticks := by
  have later := follows.mono (Int.le_of_lt growth)
  have added := apply_store_same record key videos nextPageToken time
  refine ⟨storeSearch_distinct follows.distinct key videos nextPageToken time,
    storeSearch_bounded follows.bounded key videos nextPageToken time, ?_, ?_, ?_⟩
  · intro k e held
    rcases (mem_storeSearch follows.distinct).mp held with ⟨rfl, rfl⟩ | ⟨other, ⟨held, -⟩, -⟩
    · exact ⟨_, added, rfl⟩
    · obtain ⟨kept, recorded, rfl⟩ := follows.recorded held
      exact ⟨_, apply_store_keeps videos nextPageToken time other recorded, rfl⟩
  · intro k kept recorded young few
    rcases apply_store_cases recorded with ⟨rfl, rfl⟩ | ⟨other, before, found, rfl⟩
    · exact (mem_storeSearch follows.distinct).mpr (Or.inl ⟨rfl, rfl⟩)
    · have fewer := Nat.lt_of_le_of_lt (Finset.card_le_card (Finset.subset_insert _ _)) few
      have held : (k, before.entry) ∈ c.searches := later.found found young fewer
      refine (mem_storeSearch follows.distinct).mpr (Or.inr ⟨other, ⟨held, ?_⟩, fun evicts => ?_⟩)
      · exact (follows.young_iff ordered ordinary held).mpr young
      · exact absurd few (Nat.not_lt.mpr (follows.evicted_many ordered evicts found))
  · intro k kept recorded held young other after
    rcases apply_store_cases recorded with ⟨rfl, rfl⟩ | ⟨different, before, found, rfl⟩
    · exact absurd after (Finset.notMem_empty _)
    rcases (mem_storeSearch follows.distinct).mp held with ⟨equal, -⟩ | ⟨-, ⟨held, fresh⟩, -⟩
    · exact absurd equal different
    by_cases same : other = key
    · subst same
      exact mem_keys.mpr ⟨_, (mem_storeSearch follows.distinct).mpr (Or.inl ⟨rfl, rfl⟩)⟩
    have after := Finset.mem_of_mem_insert_of_ne after same
    obtain ⟨f, inside⟩ := mem_keys.mp (later.closed found held young other after)
    obtain ⟨kept', recorded', rfl⟩ := follows.recorded inside
    obtain ⟨-, kept'', recorded'', less⟩ := (ordered.since found other).mp after
    cases recorded'.symm.trans recorded''
    refine mem_keys.mpr ⟨_, (mem_storeSearch follows.distinct).mpr
      (Or.inr ⟨same, ⟨inside, ?_⟩, fun evicts => ?_⟩)⟩
    · rw [follows.young_iff ordered ordinary inside]
      change time.ticks - before.entry.timestamp.ticks ≤ c.ttl at young
      omega
    · -- the older answer under `k` is fresh, so the one under `other` is not the oldest
      obtain ⟨e, member, least⟩ := oldestKey?_oldest evicts.2.2
      have equal := follows.entry_eq recorded' (mem_fresh.mp member).1
      subst equal
      have notBefore := least k _ (mem_fresh.mpr ⟨held, fresh⟩)
      rw [(Instant.isBefore_ticks (ordered.ordinary found) (ordered.ordinary recorded')).mpr less]
        at notBefore
      cases notBefore

theorem Follows.apply {c : Cache} {record : SearchRecord} {now : Int}
    (follows : c.Follows record now) (ordered : record.Ordered now) {step : SearchStep}
    (ordinary : step.now.isLeap = false) (growth : now < step.now.ticks) :
    (step.apply c).Follows (record.apply step) step.now.ticks := by
  cases step with
  | search key time => exact follows.search ordered key ordinary (Int.le_of_lt growth)
  | store key videos nextPageToken time =>
    exact follows.store ordered key videos nextPageToken ordinary growth

theorem apply_ttl (c : Cache) (step : SearchStep) : (step.apply c).ttl = c.ttl := by
  cases step with
  | store key videos nextPageToken now => rfl
  | search key now =>
    simp only [SearchStep.apply, Cache.search]
    split
    · rfl
    · split <;> rfl

theorem run_ttl (c : Cache) (steps : List SearchStep) : (SearchStep.run c steps).ttl = c.ttl := by
  induction steps generalizing c with
  | nil => rfl
  | cons step steps ih => exact (ih (step.apply c)).trans (apply_ttl c step)

theorem Follows.run {c : Cache} {record : SearchRecord} {now : Int}
    (follows : c.Follows record now) (ordered : record.Ordered now) {steps : List SearchStep}
    {last : Int} (ordinary : ∀ step ∈ steps, step.now.isLeap = false)
    (later : ∀ step ∈ steps, now < step.now.ticks)
    (increasing : steps.Pairwise fun a b => a.now.ticks < b.now.ticks)
    (growth : now ≤ last) (ended : ∀ step ∈ steps, step.now.ticks ≤ last) :
    (SearchStep.run c steps).Follows (record.run steps) last ∧ (record.run steps).Ordered last := by
  induction steps generalizing c record now with
  | nil => exact ⟨follows.mono growth, ordered.mono growth⟩
  | cons step steps ih =>
    obtain ⟨first, increasing⟩ := List.pairwise_cons.mp increasing
    have plain := ordinary step List.mem_cons_self
    have after := later step List.mem_cons_self
    exact ih (follows.apply ordered plain after) (ordered.apply plain after)
      (fun other inside => ordinary other (List.mem_cons_of_mem _ inside)) first increasing
      (ended step List.mem_cons_self) (fun other inside => ended other (List.mem_cons_of_mem _ inside))

theorem Follows.search_eq_some_iff {c : Cache} {record : SearchRecord} {now : Int}
    (follows : c.Follows record now) (ordered : record.Ordered now) {time : Instant}
    (ordinary : time.isLeap = false) (growth : now ≤ time.ticks) (key : String) (e : CacheEntry) :
    (c.search key time).1 = some e ↔
      ∃ since, record key = some ⟨e, since⟩ ∧ e.age time ≤ c.ttl ∧ since.card < maxSearches := by
  have later := follows.mono growth
  have laterOrdered := ordered.mono growth
  have answers : (c.search key time).1 = some e ↔ (key, e) ∈ c.searches ∧ e.age time ≤ c.ttl := by
    rw [← searchEntry_some_iff follows.distinct]
    unfold Cache.search
    cases seen : c.searchEntry? key with
    | none => simp
    | some f =>
      by_cases stale : c.ttl < f.age time
      · simp only [if_pos stale, reduceCtorEq, Option.some.injEq, false_iff, not_and]
        rintro rfl
        exact Int.not_le.mpr stale
      · simp only [if_neg stale, Option.some.injEq]
        exact ⟨fun same => ⟨same, same ▸ Int.not_lt.mp stale⟩, fun same => same.1⟩
  rw [answers]
  constructor
  · intro ⟨held, young⟩
    obtain ⟨kept, recorded, rfl⟩ := follows.recorded held
    refine ⟨kept.since, recorded, young, ?_⟩
    exact later.few laterOrdered recorded held ((later.young_iff laterOrdered ordinary held).mp young)
  · intro ⟨since, recorded, young, few⟩
    unfold CacheEntry.age at young ⊢
    rw [Instant.since_ticks ordinary (ordered.ordinary recorded)] at young ⊢
    exact ⟨later.found recorded young few, young⟩

private theorem exists_start {steps : List SearchStep} {last : Int}
    (increasing : steps.Pairwise fun a b => a.now.ticks < b.now.ticks)
    (ended : ∀ step ∈ steps, step.now.ticks ≤ last) :
    ∃ start ≤ last, ∀ step ∈ steps, start < step.now.ticks := by
  cases steps with
  | nil => exact ⟨last, Int.le_refl _, by simp⟩
  | cons first rest =>
    have early := ended first List.mem_cons_self
    refine ⟨first.now.ticks - 1, by omega, ?_⟩
    intro step inside
    rcases List.mem_cons.mp inside with rfl | inside
    · omega
    · have after := (List.pairwise_cons.mp increasing).1 step inside
      omega

/-- A search finds an answer exactly when it is the last one that was kept under its key, is no older
than the ttl, and fewer than 256 other keys were answered after it. -/
theorem search_finds_recent (ttl : Duration) (file : Option CacheFile) (steps : List SearchStep)
    (key : String) (now : Instant) (e : CacheEntry)
    (ordinary : ∀ time ∈ steps.map SearchStep.now ++ [now], time.isLeap = false)
    (increasing : (steps.map SearchStep.now ++ [now]).Pairwise fun a b => a.isBefore b = true) :
    ((SearchStep.run (Cache.new ttl file) steps).search key now).1 = some e ↔
      ∃ earlier later,
        steps = earlier ++ .store key e.videos e.nextPageToken e.timestamp :: later ∧
        key ∉ storedKeys later ∧ e.age now ≤ ttl ∧ (storedKeys later).toFinset.card < 256 := by
  have plain : ∀ step ∈ steps, step.now.isLeap = false :=
    fun step inside => ordinary _ (List.mem_append_left _ (List.mem_map.mpr ⟨step, inside, rfl⟩))
  have plainNow : now.isLeap = false := ordinary now (by simp)
  obtain ⟨ascending, -, final⟩ := List.pairwise_append.mp increasing
  have ascending : steps.Pairwise fun a b => a.now.ticks < b.now.ticks := by
    refine (List.pairwise_map.mp ascending).imp_of_mem fun {a b} first second before => ?_
    exact (Instant.isBefore_ticks (plain a first) (plain b second)).mp before
  have ended : ∀ step ∈ steps, step.now.ticks ≤ now.ticks := by
    intro step inside
    have before := final step.now (List.mem_map.mpr ⟨step, inside, rfl⟩) now List.mem_cons_self
    exact Int.le_of_lt ((Instant.isBefore_ticks (plain step inside) plainNow).mp before)
  obtain ⟨start, early, starts⟩ := exists_start ascending ended
  obtain ⟨follows, ordered⟩ := (Follows.new ttl file start).run (Ordered.empty start) plain starts
    ascending early ended
  rw [follows.search_eq_some_iff ordered plainNow (Int.le_refl _)]
  have sameTtl : (SearchStep.run (Cache.new ttl file) steps).ttl = ttl := run_ttl _ _
  simp only [run_eq_some_iff, SearchRecord.empty, reduceCtorEq, false_and, exists_false, and_false,
    or_false, sameTtl]
  constructor
  · rintro ⟨since, ⟨earlier, later, rfl, absent, rfl⟩, young, few⟩
    exact ⟨earlier, later, rfl, absent, young, few⟩
  · rintro ⟨earlier, later, rfl, absent, young, few⟩
    exact ⟨_, ⟨earlier, later, rfl, absent, rfl⟩, young, few⟩

/-- Two questions are answered, and the first of them is asked again. -/
theorem search_finds_first_of_two :
    let t₀ : Instant := ⟨0, 0, by decide, by decide⟩
    let t₁ : Instant := ⟨1, 500, by decide, by decide⟩
    let t₂ : Instant := ⟨60, 0, by decide, by decide⟩
    let steps : List SearchStep :=
      [.store "search:grace:first:21" [] (some "CAoQAA") t₀,
        .store "search:hope:first:21" [] none t₁]
    (∀ time ∈ steps.map SearchStep.now ++ [t₂], time.isLeap = false) ∧
    ((steps.map SearchStep.now ++ [t₂]).Pairwise fun a b => a.isBefore b = true) ∧
    ((SearchStep.run (Cache.new (Duration.ofSeconds 600) none) steps).search
      "search:grace:first:21" t₂).1 = some ⟨t₀, [], some "CAoQAA"⟩ := by
  refine ⟨by decide, by decide, ?_⟩
  refine (search_finds_recent _ none _ _ _ _ (by decide) (by decide)).mpr ?_
  exact ⟨[], [.store "search:hope:first:21" [] none ⟨1, 500, by decide, by decide⟩], rfl, by decide,
    by decide, by decide⟩

end Cache
end ParishSite.Feed
