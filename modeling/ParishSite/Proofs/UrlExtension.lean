import Mathlib.Data.List.Induction
import ParishSite.Proofs.FallibleSteps
import ParishSite.Proofs.FormRoundTrip
import ParishSite.Web.Url

/-! Segments behind an address. The path of an address that was read is cut at its slashes, so adding
segments is the same as writing them behind the text of the path, less the slashes at its end. -/

namespace ParishSite.Web

/-- No part holds the slash that would cut it. -/
def PlainParts (parts : List (List Char)) : Prop := ∀ part ∈ parts, '/' ∉ part

/-- The segments of a path, if it has any, are what stands between its slashes. -/
def Path.IsPlain : Path → Prop
  | .segments parts => PlainParts parts
  | .text _ => True

theorem PlainParts.append {parts more : List (List Char)} (plain : PlainParts parts)
    (others : PlainParts more) : PlainParts (parts ++ more) := by
  intro part member
  rcases List.mem_append.mp member with member | member
  · exact plain part member
  · exact others part member

theorem PlainParts.sublist {parts fewer : List (List Char)} (plain : PlainParts parts)
    (inside : fewer.Sublist parts) : PlainParts fewer := by
  intro part member
  exact plain part (inside.subset member)

theorem PlainParts.singleton {part : List Char} (plain : '/' ∉ part) : PlainParts [part] := by
  intro other member
  rw [List.mem_singleton.mp member]
  exact plain

theorem Host.splitOn_plain (isSeparator : Char → Bool) (slash : isSeparator '/' = true)
    (s : List Char) : PlainParts (Host.splitOn isSeparator s) := by
  induction s with
  | nil => exact .singleton List.not_mem_nil
  | cons c s ih =>
    rw [Host.splitOn]
    split
    · exact PlainParts.append (.singleton List.not_mem_nil) ih
    next other =>
    have plain : c ≠ '/' := by
      rintro rfl
      exact other slash
    split
    · next part more cut =>
      rw [cut] at ih
      intro found member
      rcases List.mem_cons.mp member with rfl | member
      · intro inside
        rcases List.mem_cons.mp inside with same | inside
        · exact plain same.symm
        · exact ih part List.mem_cons_self inside
      · exact ih found (List.mem_cons_of_mem _ member)
    · apply PlainParts.singleton
      intro inside
      exact plain (List.mem_singleton.mp inside).symm

namespace Url

theorem percentByte_plain (b : UInt8) : '/' ∉ percentByte b := by
  have range := b.toNat_lt
  have high := (hexChar_spec (b.toNat / 16) (by omega)).2
  have low := (hexChar_spec (b.toNat % 16) (by omega)).2
  simp only [List.mem_cons, List.not_mem_nil, or_false, not_or] at high low
  simp only [percentByte, List.mem_cons, List.not_mem_nil, or_false, not_or]
  exact ⟨by decide, Ne.symm high.2.2.2.2, Ne.symm low.2.2.2.2⟩

theorem escaped_plain (also : List Char) {s : List Char} (plain : '/' ∉ s) :
    '/' ∉ escaped also s := by
  intro member
  obtain ⟨c, inside, written⟩ := List.mem_flatMap.mp member
  split at written
  · obtain ⟨b, -, digit⟩ := List.mem_flatMap.mp written
    exact percentByte_plain b digit
  · rw [List.mem_singleton.mp written] at plain
    exact plain inside

theorem withoutLast_plain (ofFile : Bool) {parts : List (List Char)} (plain : PlainParts parts) :
    PlainParts (withoutLast ofFile parts) := by
  unfold withoutLast
  split
  · split
    · exact plain
    · exact plain.sublist (List.nil_sublist _)
  · exact plain.sublist (List.dropLast_sublist _)

theorem pushed_plain (ofFile : Bool) {parts : List (List Char)} {s : List Char}
    (plain : PlainParts parts) (last : '/' ∉ s) : PlainParts (pushed ofFile parts s) := by
  unfold pushed
  split
  · next c rest _ =>
    apply PlainParts.singleton
    intro inside
    rcases List.mem_cons.mp inside with same | colon
    · exact last (same ▸ List.mem_cons_self)
    · exact absurd (List.mem_singleton.mp colon) (by decide)
  · exact plain.append (.singleton (escaped_plain _ last))

theorem walk_plain (ofFile : Bool) {parts rest : List (List Char)} (plain : PlainParts parts)
    (others : PlainParts rest) : PlainParts (walk ofFile parts rest) := by
  have nothing : PlainParts [[]] := .singleton List.not_mem_nil
  induction rest generalizing parts with
  | nil => exact plain
  | cons s rest ih =>
    have first : '/' ∉ s := others s List.mem_cons_self
    have behind : PlainParts rest := others.sublist (List.sublist_cons_self _ _)
    cases rest with
    | nil =>
      rw [walk]
      split
      · exact (withoutLast_plain ofFile plain).append nothing
      split
      · exact plain.append nothing
      · exact pushed_plain ofFile plain first
    | cons next rest =>
      rw [walk]
      · split
        · exact ih (withoutLast_plain ofFile plain) behind
        split
        · exact ih plain behind
        · exact ih (pushed_plain ofFile plain first) behind
      · exact List.cons_ne_nil next rest

theorem pathOf_plain (scheme s : List Char) : PlainParts (pathOf scheme s) := by
  have nothing : PlainParts [] := fun _ member => absurd member List.not_mem_nil
  have slash : isSlash (isSpecial scheme) '/' = true := rfl
  have walked := walk_plain (isFile scheme) nothing
    (Host.splitOn_plain _ slash (withoutSlash (isSpecial scheme) s))
  unfold pathOf
  dsimp only
  split
  · exact nothing
  split
  · split
    · exact .singleton List.not_mem_nil
    · next kept _ => exact walked.sublist (List.dropWhile_sublist _)
  · exact walked

private theorem fileOf_plain {s : List Char} {a : Authority} {parts : List (List Char)}
    (found : fileOf s = .ok (a, parts)) : PlainParts parts := by
  unfold fileOf at found
  dsimp only at found
  split at found
  · split at found
    · split at found
      · cases found
        exact pathOf_plain _ _
      · obtain ⟨_, -, rest⟩ := ok_of_bind found
        cases rest
        exact pathOf_plain _ _
    · cases found
      exact pathOf_plain _ _
  · cases found
    exact pathOf_plain _ _

theorem placeOf_plain {scheme s : List Char} {a : Option Authority} {path : Path}
    (found : placeOf scheme s = .ok (a, path)) : path.IsPlain := by
  unfold placeOf at found
  dsimp only at found
  split at found
  · obtain ⟨⟨_, parts⟩, file, rest⟩ := ok_of_bind found
    cases rest
    exact fileOf_plain file
  split at found
  · obtain ⟨_, -, rest⟩ := ok_of_bind found
    cases rest
    exact pathOf_plain _ _
  split at found
  · obtain ⟨_, -, rest⟩ := ok_of_bind found
    cases rest
    exact pathOf_plain _ _
  · cases found
    exact pathOf_plain _ _
  · cases found
    exact trivial

theorem read_plain {s : List Char} {u : Url} (found : Url.read s = .ok u) :
    u.path.IsPlain := by
  unfold read at found
  dsimp only at found
  split at found
  · obtain ⟨⟨_, _⟩, -, found⟩ := ok_of_bind found
    obtain ⟨⟨_, _⟩, place, found⟩ := ok_of_bind found
    cases found
    exact placeOf_plain place
  · cases found

theorem withoutSlashes_slash (s : List Char) : withoutSlashes (s ++ ['/']) = withoutSlashes s := by
  simp [withoutSlashes]

theorem withoutSlashes_other {s : List Char} {c : Char} (other : c ≠ '/') :
    withoutSlashes (s ++ [c]) = s ++ [c] := by
  simp [withoutSlashes, other]

private theorem toText_append (parts more : List (List Char)) :
    (Path.segments (parts ++ more)).toText =
      (Path.segments parts).toText ++ (Path.segments more).toText := List.flatMap_append

theorem withoutSlashes_segments {parts : List (List Char)} (plain : PlainParts parts) :
    withoutSlashes (Path.segments parts).toText =
      (Path.segments (parts.reverse.dropWhile List.isEmpty).reverse).toText := by
  induction parts using List.reverseRecOn with
  | nil => rfl
  | append_singleton parts last ih =>
    have others : PlainParts parts := plain.sublist (List.sublist_append_left _ _)
    rw [toText_append, List.reverse_append, List.reverse_singleton, List.singleton_append]
    rcases List.eq_nil_or_concat last with rfl | ⟨start, c, cut⟩
    · rw [List.dropWhile_cons_of_pos rfl, ← ih others]
      exact withoutSlashes_slash _
    · rw [List.concat_eq_append] at cut
      subst cut
      have other : c ≠ '/' := by
        rintro rfl
        apply plain _ (List.mem_append_right parts (List.mem_singleton.mpr rfl))
        exact List.mem_append_right start (List.mem_singleton.mpr rfl)
      have filled : ¬ (start ++ [c]).isEmpty = true := by simp
      rw [List.dropWhile_cons_of_neg filled, List.reverse_cons, List.reverse_reverse, toText_append]
      have text : (Path.segments [start ++ [c]]).toText = '/' :: (start ++ [c]) := by
        simp [Path.toText]
      rw [text, ← List.cons_append, ← List.append_assoc, withoutSlashes_other other]

/-- An address without a query keeps all but its path, and its path gets the segments behind its
text, whatever number of slashes that ends in. -/
theorem extended_spec {u : Url} (plain : u.path.IsPlain) (noQuery : u.query = none)
    (noFragment : u.fragment = none) (parts : List (List Char)) :
    u.extended parts = { u with path := (u.extended parts).path } ∧
      (u.extended parts).path.toText =
        withoutSlashes u.path.toText ++ (Path.segments parts).toText := by
  obtain ⟨scheme, authority, path, query, fragment⟩ := u
  dsimp only at plain noQuery noFragment
  subst noQuery noFragment
  cases path with
  | segments old =>
    refine ⟨rfl, ?_⟩
    dsimp only [extended]
    rw [toText_append, withoutSlashes_segments plain]
  | text chars => exact ⟨rfl, rfl⟩

theorem withPairs_other (u : Url) (pairs : List (String × String)) :
    (u.withPairs pairs).path = u.path ∧ (u.withPairs pairs).fragment = u.fragment := by
  unfold withPairs
  split
  · exact ⟨rfl, rfl⟩
  · dsimp only
    split <;> exact ⟨rfl, rfl⟩

theorem withPairs_query {u : Url} {q : List Char} (has : u.query = some q)
    (pairs : List (String × String)) : ∃ more, (u.withPairs pairs).query = some (q ++ more) := by
  unfold withPairs
  rw [has]
  split
  · exact ⟨[], by rw [has, List.append_nil]⟩
  cases q with
  | nil => exact ⟨_, rfl⟩
  | cons c q => exact ⟨_, rfl⟩

/-- Addresses behind one address differ when their first segments start with different characters,
whatever follows and whatever is asked. -/
theorem extended_ne (u : Url) {c d : Char} (apart : c ≠ d) (s t : List Char)
    (parts others : List (List Char)) (pairs morePairs : List (String × String)) :
    (u.extended ((c :: s) :: parts)).withPairs pairs ≠
      (u.extended ((d :: t) :: others)).withPairs morePairs := by
  intro same
  have path := congrArg Url.path same
  have query := congrArg Url.query same
  have fragment := congrArg Url.fragment same
  rw [(withPairs_other _ pairs).1, (withPairs_other _ morePairs).1] at path
  rw [(withPairs_other _ pairs).2, (withPairs_other _ morePairs).2] at fragment
  obtain ⟨scheme, authority, old, oldQuery, oldFragment⟩ := u
  cases oldFragment with
  | some f =>
    have tails := List.append_cancel_left (Option.some.inj fragment)
    exact apart (List.cons.inj (List.cons.inj tails).2).1
  | none =>
  cases oldQuery with
  | some q =>
    let u : Url := ⟨scheme, authority, old, some q, none⟩
    obtain ⟨more, left⟩ := withPairs_query (u := u.extended ((c :: s) :: parts)) rfl pairs
    obtain ⟨others, right⟩ := withPairs_query (u := u.extended ((d :: t) :: others)) rfl morePairs
    rw [left, right, List.append_assoc, List.append_assoc] at query
    have tails := List.append_cancel_left (Option.some.inj query)
    exact apart (List.cons.inj (List.cons.inj tails).2).1
  | none =>
  cases old with
  | segments old =>
    have tails := List.append_cancel_left (Path.segments.inj path)
    exact apart (List.cons.inj (List.cons.inj tails).1).1
  | text chars =>
    have tails := List.append_cancel_left (Path.text.inj path)
    exact apart (List.cons.inj (List.cons.inj tails).2).1

end Url
end ParishSite.Web
