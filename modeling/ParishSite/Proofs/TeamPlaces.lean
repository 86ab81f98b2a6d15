import ParishSite.Content.Team
import ParishSite.Proofs.RecordMembers

/-! The places of groups and teams are integers of 32 bits in every row that is read, and in the view of
admins that is made of it. What a decoder can yield follows from how it is built. -/

namespace ParishSite

namespace Json

/-- Whatever is read has a property, wherever it stands in a text. -/
def Decoder.Yields (d : Decoder α) (P : α → Prop) : Prop :=
  ∀ reading node a, d reading node = .ok a → P a

def Record.Yields (r : Record α) (P : α → Prop) : Prop :=
  ∀ reading found a, r.build reading found = .ok a → P a

variable {P : α → Prop}

namespace Decoder

theorem int32_yields : int32.Yields IsInt32 := by
  intro reading node n read
  unfold int32 int at read
  split at read
  · split at read
    · next within =>
      cases read
      exact within
    · cases read
  · cases read

theorem Yields.optional {d : Decoder α} (each : d.Yields P) :
    d.optional.Yields fun a? => ∀ a, a? = some a → P a := by
  rintro reading node _ read a rfl
  unfold Decoder.optional at read
  split at read
  · cases read
  · obtain ⟨b, seen, same⟩ := ok_of_map read
    cases same
    exact each reading node a seen

theorem items_yield {d : Decoder α} (each : d.Yields P) {reading : Reading} {index : Nat}
    {is : Items} {as : List α} (read : items d reading index is = .ok as) : ∀ a ∈ as, P a := by
  fun_induction items d reading index is generalizing as with
  | case1 =>
    cases read
    exact fun _ none => nomatch none
  | case2 => cases read
  | case3 index value rest ih =>
    obtain ⟨a, first, more⟩ := ok_of_bind read
    obtain ⟨others, later, same⟩ := ok_of_bind more
    cases same
    have here : P a := by
      cases seen : d reading value with
      | error fault =>
        rw [seen] at first
        cases first
      | ok b =>
        rw [seen] at first
        cases first
        exact each reading value a seen
    exact List.forall_mem_cons.mpr ⟨here, ih later⟩

theorem Yields.list {d : Decoder α} (each : d.Yields P) :
    (Decoder.list d).Yields fun as => ∀ a ∈ as, P a := by
  intro reading node as read
  unfold Decoder.list at read
  split at read
  · obtain ⟨inner, -, taken⟩ := ok_of_bind read
    exact items_yield each taken
  · cases read

end Decoder

namespace Record.Yields

theorem of {a : α} (holds : P a) : (Record.of a).Yields P := by
  intro reading found b built
  cases built
  exact holds

variable {r : Record (α → β)} {S : β → Prop} {d : Decoder α} {name : String}
  {mayEndBefore : Bool} {absent : Except Misfit α}

/-- A field whose values have a property. -/
theorem field (before : r.Yields fun f => ∀ a, P a → S (f a))
    (read : d.Yields P) (left : ∀ a, absent = .ok a → P a) :
    (r.extended name d mayEndBefore absent).Yields S := by
  intro reading found b built
  obtain ⟨f, a, first, rfl, seen | unseen⟩ := of_extended built
  · obtain ⟨node, -, value⟩ := seen
    exact before reading found f first a (read reading node a value)
  · exact before reading found f first a (left a unseen.2)

/-- A field whose values do not matter. -/
theorem any (before : r.Yields fun f => ∀ a, S (f a)) :
    (r.extended name d mayEndBefore absent).Yields S := by
  intro reading found b built
  obtain ⟨f, a, first, rfl, -⟩ := of_extended built
  exact before reading found f first a

theorem decoder {r : Record α} (built : r.Yields P) (title : String) : (r.decoder title).Yields P := by
  intro reading node a read
  obtain ⟨inner, found, made⟩ := of_decoder read
  exact built inner found a made

end Record.Yields

end Json

open Json.Decoder (int32_yields)
open Json.Record (Yields)

theorem unplaced (sort : Option Int) (absent : (.ok none : Except Json.Misfit _) = .ok sort) :
    ∀ n, sort = some n → IsInt32 n := by
  cases absent
  rintro n ⟨⟩

theorem TeamRow.decoder_yields : TeamRow.decoder.Yields HasInt32 := by
  have place := int32_yields.optional
  refine Yields.decoder (.any (.any (.any (.any (.field (.field (.any (.any (.any (.of ?_)))) place
    unplaced) place unplaced))))) _
  intro _ _ _ _ group _ team _ _ _ _
  exact ⟨group, team⟩

theorem groupSort_int32 (name : String) : IsInt32 (groupSort name) := by
  have known : ∀ group ∈ knownGroups, IsInt32 group.2 := by simp [knownGroups, IsInt32]
  unfold groupSort
  split
  · next found => exact known _ (List.mem_of_find?_eq_some found)
  · simp [IsInt32]

theorem TeamItem.ofRow_hasInt32 {t : TeamRow} (sorts : t.HasInt32) : (ofRow t).HasInt32 := by
  constructor
  · change IsInt32 (t.groupSort.getD (ParishSite.groupSort t.groupName))
    cases placed : t.groupSort with
    | none => exact groupSort_int32 t.groupName
    | some n => exact sorts.1 n placed
  · change IsInt32 (t.teamSort.getD defaultTeamSort)
    cases placed : t.teamSort with
    | none => exact ⟨by decide, by decide⟩
    | some n => exact sorts.2 n placed

end ParishSite
