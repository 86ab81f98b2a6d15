import Mathlib.Data.List.Nodup
import ParishSite.Feed.Cache

/-! What the operations of the cache do to the answers that it holds. Every key is held once, there
are never more than 256 of them, and keeping an answer removes nothing but stale answers and, where
there is no room, the oldest one. -/

namespace ParishSite.Time.Instant

theorem not_isBefore_trans {a b c : Instant} (first : b.isBefore a = false)
    (second : c.isBefore b = false) : c.isBefore a = false := by
  simp only [isBefore, Bool.or_eq_false_iff, Bool.and_eq_false_iff, decide_eq_false_iff_not,
    beq_eq_false_iff_ne] at *
  omega

theorem isBefore_asymm {a b : Instant} (first : a.isBefore b = true) : b.isBefore a = false := by
  simp only [isBefore, Bool.or_eq_false_iff, Bool.and_eq_false_iff, decide_eq_false_iff_not,
    beq_eq_false_iff_ne, Bool.or_eq_true, Bool.and_eq_true, decide_eq_true_eq, beq_iff_eq] at *
  omega

end ParishSite.Time.Instant

namespace ParishSite.Feed.Cache
open Time (Instant)

def keys (searches : List (String × CacheEntry)) : List String := searches.map Prod.fst

@[simp] theorem keys_nil : keys [] = [] := rfl

@[simp] theorem keys_cons (pair : String × CacheEntry) (rest : List (String × CacheEntry)) :
    keys (pair :: rest) = pair.1 :: keys rest := rfl

theorem mem_keys {searches : List (String × CacheEntry)} {key : String} :
    key ∈ keys searches ↔ ∃ e, (key, e) ∈ searches := by
  simp [keys]

theorem entry_unique {searches : List (String × CacheEntry)} (distinct : (keys searches).Nodup)
    {key : String} {e f : CacheEntry} (first : (key, e) ∈ searches) (second : (key, f) ∈ searches) :
    e = f := by
  have same := List.inj_on_of_nodup_map distinct first second rfl
  exact (Prod.mk.inj same).2

theorem searchEntry_some_iff {c : Cache} (distinct : (keys c.searches).Nodup) {key : String}
    {e : CacheEntry} : c.searchEntry? key = some e ↔ (key, e) ∈ c.searches := by
  have sound {f : CacheEntry} (found : c.searchEntry? key = some f) : (key, f) ∈ c.searches := by
    unfold searchEntry? at found
    obtain ⟨⟨k, f⟩, seen, rfl⟩ := Option.map_eq_some_iff.mp found
    have same : k = key := by simpa using List.find?_some seen
    subst same
    exact List.mem_of_find?_eq_some seen
  refine ⟨sound, fun held => ?_⟩
  cases found : c.searchEntry? key with
  | none =>
    unfold searchEntry? at found
    exact absurd (List.find?_eq_none.mp (Option.map_eq_none_iff.mp found) _ held) (by simp)
  | some f => rw [entry_unique distinct (sound found) held]

theorem mem_without {searches : List (String × CacheEntry)} {key k : String} {e : CacheEntry} :
    (k, e) ∈ without key searches ↔ (k, e) ∈ searches ∧ k ≠ key := by
  simp [without]

theorem keys_without_sublist (key : String) (searches : List (String × CacheEntry)) :
    List.Sublist (keys (without key searches)) (keys searches) :=
  List.filter_sublist.map Prod.fst

theorem without_length_lt {searches : List (String × CacheEntry)} {key : String}
    (held : key ∈ keys searches) : (without key searches).length < searches.length := by
  obtain ⟨e, member⟩ := mem_keys.mp held
  refine List.length_filter_lt_length_iff_exists.mpr ⟨(key, e), member, ?_⟩
  simp

theorem keys_put (key : String) (e : CacheEntry) (searches : List (String × CacheEntry)) :
    keys (put key e searches) =
      if key ∈ keys searches then keys searches else keys searches ++ [key] := by
  induction searches with
  | nil => simp [put]
  | cons pair rest ih =>
    obtain ⟨k, f⟩ := pair
    by_cases same : k = key
    · subst same
      simp [put]
    · have other : key ≠ k := fun equal => same equal.symm
      simp only [put, same, if_false, keys_cons, List.mem_cons, other, false_or, ih]
      by_cases held : key ∈ keys rest
      · rw [if_pos held, if_pos held]
      · rw [if_neg held, if_neg held, List.cons_append]

theorem mem_put {searches : List (String × CacheEntry)} (distinct : (keys searches).Nodup)
    {key k : String} {e f : CacheEntry} :
    (k, f) ∈ put key e searches ↔ k = key ∧ f = e ∨ k ≠ key ∧ (k, f) ∈ searches := by
  induction searches with
  | nil => simp [put]
  | cons pair rest ih =>
    obtain ⟨k', f'⟩ := pair
    obtain ⟨fresh, distinct⟩ := List.nodup_cons.mp distinct
    by_cases same : k' = key
    · subst same
      have absent : ∀ g, (k', g) ∉ rest := fun g member => fresh (List.mem_map.mpr ⟨_, member, rfl⟩)
      simp only [put, if_true, List.mem_cons, Prod.mk.injEq]
      grind
    · simp only [put, same, if_false, List.mem_cons, Prod.mk.injEq, ih distinct]
      grind

theorem put_length (key : String) (e : CacheEntry) (searches : List (String × CacheEntry)) :
    (put key e searches).length =
      if key ∈ keys searches then searches.length else searches.length + 1 := by
  have lengths := congrArg List.length (keys_put key e searches)
  by_cases held : key ∈ keys searches
  · rw [if_pos held]
    rw [if_pos held] at lengths
    simpa only [keys, List.length_map] using lengths
  · rw [if_neg held]
    rw [if_neg held] at lengths
    simpa only [keys, List.length_map, List.length_append, List.length_singleton] using lengths

private theorem oldestKey_go (key : String) (e : CacheEntry) (rest : List (String × CacheEntry)) :
    ∃ f, (oldestKey?.go key e rest, f) ∈ (key, e) :: rest ∧
      ∀ pair ∈ (key, e) :: rest, pair.2.timestamp.isBefore f.timestamp = false := by
  induction rest generalizing key e with
  | nil => exact ⟨e, by simp [oldestKey?.go], by simp [Instant.isBefore]⟩
  | cons pair rest ih =>
    obtain ⟨k, g⟩ := pair
    by_cases earlier : g.timestamp.isBefore e.timestamp = true
    · obtain ⟨f, member, oldest⟩ := ih k g
      refine ⟨f, ?_, ?_⟩
      · rw [oldestKey?.go, if_pos earlier]
        exact List.mem_cons_of_mem _ member
      · intro other inside
        rcases List.mem_cons.mp inside with rfl | inside
        · exact Instant.not_isBefore_trans (oldest _ List.mem_cons_self) (Instant.isBefore_asymm earlier)
        · exact oldest other inside
    · obtain ⟨f, member, oldest⟩ := ih key e
      refine ⟨f, ?_, ?_⟩
      · rw [oldestKey?.go, if_neg earlier]
        rcases List.mem_cons.mp member with same | inside
        · exact List.mem_cons.mpr (Or.inl same)
        · exact List.mem_cons_of_mem _ (List.mem_cons_of_mem _ inside)
      · intro other inside
        rcases List.mem_cons.mp inside with rfl | inside
        · exact oldest _ List.mem_cons_self
        rcases List.mem_cons.mp inside with rfl | inside
        · exact Instant.not_isBefore_trans (oldest _ List.mem_cons_self) (by simpa using earlier)
        · exact oldest other (List.mem_cons_of_mem _ inside)

/-- No answer is older than the one that is taken for the oldest. -/
theorem oldestKey?_oldest {searches : List (String × CacheEntry)} {key : String}
    (found : oldestKey? searches = some key) :
    ∃ e, (key, e) ∈ searches ∧
      ∀ k f, (k, f) ∈ searches → f.timestamp.isBefore e.timestamp = false := by
  cases searches with
  | nil => cases found
  | cons pair rest =>
    obtain ⟨e, member, oldest⟩ := oldestKey_go pair.1 pair.2 rest
    have same : oldestKey?.go pair.1 pair.2 rest = key := Option.some.inj found
    rw [same] at member
    exact ⟨e, member, fun k f inside => oldest (k, f) inside⟩

theorem oldestKey?_isSome {searches : List (String × CacheEntry)} (held : 0 < searches.length) :
    ∃ key, oldestKey? searches = some key := by
  cases searches with
  | nil => simp at held
  | cons pair rest => exact ⟨_, rfl⟩

def fresh (c : Cache) (now : Instant) : List (String × CacheEntry) :=
  c.searches.filter fun (_, e) => e.age now ≤ c.ttl

/-- Whether the answer under `k` has to go when one under `key` is kept. -/
def Evicts (c : Cache) (key : String) (now : Instant) (k : String) : Prop :=
  maxSearches ≤ (c.fresh now).length ∧ key ∉ keys (c.fresh now) ∧ oldestKey? (c.fresh now) = some k

/-- The answers that stay when one under `key` is kept. -/
private def room (c : Cache) (key : String) (now : Instant) : List (String × CacheEntry) :=
  if maxSearches ≤ (c.fresh now).length && !(c.fresh now).any fun (k, _) => k = key then
    match oldestKey? (c.fresh now) with
    | some oldest => without oldest (c.fresh now)
    | none => c.fresh now
  else c.fresh now

private theorem storeSearch_searches (c : Cache) (key : String) (videos : List Video)
    (nextPageToken : Option String) (now : Instant) :
    (c.storeSearch key videos nextPageToken now).searches =
      put key ⟨now, videos, nextPageToken⟩ (c.room key now) := rfl

theorem mem_fresh {c : Cache} {now : Instant} {k : String} {f : CacheEntry} :
    (k, f) ∈ c.fresh now ↔ (k, f) ∈ c.searches ∧ f.age now ≤ c.ttl := by
  simp [fresh]

theorem fresh_keys_sublist (c : Cache) (now : Instant) :
    List.Sublist (keys (c.fresh now)) (keys c.searches) :=
  List.filter_sublist.map Prod.fst

private theorem full_iff (c : Cache) (key : String) (now : Instant) :
    (maxSearches ≤ (c.fresh now).length && !(c.fresh now).any fun (k, _) => k = key) = true ↔
      maxSearches ≤ (c.fresh now).length ∧ key ∉ keys (c.fresh now) := by
  simp only [Bool.and_eq_true, decide_eq_true_eq, Bool.not_eq_true', List.any_eq_false, keys,
    List.mem_map, not_exists, not_and]

private theorem mem_room {c : Cache} {key k : String} {f : CacheEntry} {now : Instant} :
    (k, f) ∈ c.room key now ↔ (k, f) ∈ c.fresh now ∧ ¬ c.Evicts key now k := by
  unfold room Evicts
  by_cases full : maxSearches ≤ (c.fresh now).length ∧ key ∉ keys (c.fresh now)
  · rw [if_pos ((full_iff c key now).mpr full)]
    cases seen : oldestKey? (c.fresh now) with
    | none => simp
    | some oldest =>
      rw [mem_without]
      simp only [full, not_false_eq_true, true_and, Option.some.injEq, eq_comm]
  · rw [if_neg (fun held => full ((full_iff c key now).mp held))]
    grind

private theorem keys_room_sublist (c : Cache) (key : String) (now : Instant) :
    List.Sublist (keys (c.room key now)) (keys c.searches) := by
  unfold room
  split
  · split
    · exact (keys_without_sublist _ _).trans (c.fresh_keys_sublist now)
    · exact c.fresh_keys_sublist now
  · exact c.fresh_keys_sublist now

/-- Keeping an answer adds it, and takes away what is stale or has to go. -/
theorem mem_storeSearch {c : Cache} (distinct : (keys c.searches).Nodup) {key k : String}
    {videos : List Video} {nextPageToken : Option String} {now : Instant} {f : CacheEntry} :
    (k, f) ∈ (c.storeSearch key videos nextPageToken now).searches ↔
      k = key ∧ f = ⟨now, videos, nextPageToken⟩ ∨
        k ≠ key ∧ ((k, f) ∈ c.searches ∧ f.age now ≤ c.ttl) ∧ ¬ c.Evicts key now k := by
  rw [storeSearch_searches, mem_put (distinct.sublist (c.keys_room_sublist key now)), mem_room,
    mem_fresh]

theorem storeSearch_distinct {c : Cache} (distinct : (keys c.searches).Nodup) (key : String)
    (videos : List Video) (nextPageToken : Option String) (now : Instant) :
    (keys (c.storeSearch key videos nextPageToken now).searches).Nodup := by
  have kept := distinct.sublist (c.keys_room_sublist key now)
  rw [storeSearch_searches, keys_put]
  split
  · exact kept
  next absent => exact List.nodup_append.mpr ⟨kept, List.nodup_singleton _, by grind⟩

theorem storeSearch_bounded {c : Cache} (bounded : c.searches.length ≤ maxSearches) (key : String)
    (videos : List Video) (nextPageToken : Option String) (now : Instant) :
    (c.storeSearch key videos nextPageToken now).searches.length ≤ maxSearches := by
  have freshBounded : (c.fresh now).length ≤ maxSearches :=
    Nat.le_trans (List.length_filter_le _ _) bounded
  rw [storeSearch_searches, put_length]
  by_cases full : maxSearches ≤ (c.fresh now).length ∧ key ∉ keys (c.fresh now)
  · obtain ⟨oldest, seen⟩ := oldestKey?_isSome (Nat.lt_of_lt_of_le (by decide) full.1)
    obtain ⟨e, member, _⟩ := oldestKey?_oldest seen
    have shorter := without_length_lt (mem_keys.mpr ⟨e, member⟩)
    have roomy : c.room key now = without oldest (c.fresh now) := by
      unfold room
      rw [if_pos ((full_iff c key now).mpr full), seen]
    rw [roomy]
    split <;> omega
  · have roomy : c.room key now = c.fresh now := by
      unfold room
      rw [if_neg (fun held => full ((full_iff c key now).mp held))]
    rw [roomy]
    split
    · exact freshBounded
    next absent =>
      have short : ¬ maxSearches ≤ (c.fresh now).length := fun long => full ⟨long, absent⟩
      omega

end ParishSite.Feed.Cache
