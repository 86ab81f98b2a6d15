import Mathlib.Data.List.Induction
import Mathlib.Data.List.Nodup
import ParishSite.Content.Team

/-! Teams in their groups. Visitors see every team once, in the group that its row names; the groups
stand in the order in which the rows first name them, and within a group the rows keep their order. The
groups that a form offers are the known ones, and behind them all others as they first occur. -/

namespace ParishSite

/-- A list holds all of some names, in the order in which they first occur. -/
structure FirstSeen (names kept : List String) : Prop where
  all : ∀ name, name ∈ kept ↔ name ∈ names
  ordered : kept.Pairwise fun a b => names.idxOf a < names.idxOf b

theorem FirstSeen.nodup {names kept : List String} (seen : FirstSeen names kept) : kept.Nodup := by
  apply seen.ordered.imp
  intro a b earlier same
  subst same
  exact Nat.lt_irrefl _ earlier

theorem addName_of_mem {names : List String} {name : String} (member : name ∈ names) :
    addName names name = names := by
  simp [addName, member]

theorem addName_of_not_mem {names : List String} {name : String} (absent : name ∉ names) :
    addName names name = names ++ [name] := by
  simp [addName, absent]

theorem FirstSeen.addName {names kept : List String} (seen : FirstSeen names kept) (name : String) :
    FirstSeen (names ++ [name]) (addName kept name) := by
  have place {a : String} (member : a ∈ kept) : (names ++ [name]).idxOf a = names.idxOf a := by
    rw [List.idxOf_append, if_pos ((seen.all a).mp member)]
  have earlier : kept.Pairwise fun a b => (names ++ [name]).idxOf a < (names ++ [name]).idxOf b := by
    apply seen.ordered.imp_of_mem
    intro a b first second before
    rwa [place first, place second]
  by_cases member : name ∈ kept
  · rw [addName_of_mem member]
    refine ⟨?_, earlier⟩
    intro other
    rw [seen.all, List.mem_append, List.mem_singleton]
    constructor
    · exact .inl
    · rintro (inside | rfl)
      · exact inside
      · exact (seen.all other).mp member
  · rw [addName_of_not_mem member]
    have absent : name ∉ names := fun inside => member ((seen.all name).mpr inside)
    refine ⟨?_, ?_⟩
    · intro other
      simp only [List.mem_append, List.mem_singleton, seen.all]
    · apply List.pairwise_append.mpr
      refine ⟨earlier, List.pairwise_singleton _ _, ?_⟩
      intro a inside b last
      rw [List.mem_singleton.mp last, place inside, List.idxOf_append, if_neg absent]
      have before := List.idxOf_lt_length_iff.mpr ((seen.all a).mp inside)
      omega

theorem eraseDups_concat (names : List String) (name : String) :
    (names ++ [name]).eraseDups = addName names.eraseDups name := by
  rw [List.eraseDups_append]
  by_cases member : name ∈ names
  · rw [addName_of_mem (List.mem_eraseDups.mpr member)]
    simp [List.removeAll, member]
  · rw [addName_of_not_mem (fun inside => member (List.mem_eraseDups.mp inside))]
    have new : [name].removeAll names = [name] := by simp [List.removeAll, member]
    rw [new]
    rfl

/-- Names that are added one by one are all names without repetition. -/
theorem foldl_addName (known names : List String) :
    names.foldl addName known.eraseDups = (known ++ names).eraseDups := by
  induction names generalizing known with
  | nil => rw [List.foldl_nil, List.append_nil]
  | cons name names ih =>
    rw [List.foldl_cons, ← eraseDups_concat, ih, List.append_assoc, List.singleton_append]

theorem FirstSeen.eraseDups (names : List String) : FirstSeen names names.eraseDups := by
  induction names using List.reverseRecOn with
  | nil => exact ⟨fun _ => Iff.rfl, .nil⟩
  | append_singleton names name ih =>
    rw [eraseDups_concat]
    exact ih.addName name

theorem addTeam_of_not_mem {title : String} (team : ServingTeam) {groups : List ServingTeamGroup}
    (absent : title ∉ groups.map (·.title)) :
    addTeam title team groups = groups ++ [⟨title, [team]⟩] := by
  induction groups with
  | nil => rfl
  | cons g rest ih =>
    rw [List.map_cons, List.mem_cons, not_or] at absent
    rw [addTeam, if_neg (Ne.symm absent.1), ih absent.2, List.cons_append]

/-- A team joins the first group of its title, and all others stay as they are. -/
theorem addTeam_of_mem (team : ServingTeam) {front : List ServingTeamGroup} (g : ServingTeamGroup)
    (back : List ServingTeamGroup) (absent : g.title ∉ front.map (·.title)) :
    addTeam g.title team (front ++ g :: back) =
      front ++ { g with teams := g.teams ++ [team] } :: back := by
  induction front with
  | nil => rw [List.nil_append, addTeam, if_pos rfl, List.nil_append]
  | cons first front ih =>
    rw [List.map_cons, List.mem_cons, not_or] at absent
    rw [List.cons_append, addTeam, if_neg (Ne.symm absent.1), ih absent.2, List.cons_append]

def ServingTeamGroup.placed (g : ServingTeamGroup) : List (String × ServingTeam) :=
  g.teams.map fun team => (g.title, team)

theorem placed_addTeam (title : String) (team : ServingTeam) (groups : List ServingTeamGroup) :
    ((addTeam title team groups).flatMap (·.placed)).Perm
      (groups.flatMap (·.placed) ++ [(title, team)]) := by
  induction groups with
  | nil => exact List.Perm.refl _
  | cons g rest ih =>
    rw [addTeam]
    split
    next same =>
      subst same
      simp only [List.flatMap_cons, ServingTeamGroup.placed, List.map_append, List.map_cons, List.map_nil,
        List.append_assoc]
      exact List.perm_append_comm.append_left _
    next =>
      rw [List.flatMap_cons, List.flatMap_cons, List.append_assoc]
      exact ih.append_left _

/-- The group of a title, with the rows that name it in their order. -/
def groupOf (rows : List TeamRow) (title : String) : ServingTeamGroup :=
  ⟨title, (rows.filter (·.groupName = title)).map ServingTeam.ofRow⟩

theorem groupOf_other (rows : List TeamRow) {t : TeamRow} {title : String}
    (other : t.groupName ≠ title) : groupOf (rows ++ [t]) title = groupOf rows title := by
  simp [groupOf, other]

theorem groupOf_own (rows : List TeamRow) (t : TeamRow) :
    groupOf (rows ++ [t]) t.groupName =
      ⟨t.groupName, (groupOf rows t.groupName).teams ++ [ServingTeam.ofRow t]⟩ := by
  simp [groupOf]

theorem groupOf_absent {rows : List TeamRow} {title : String}
    (absent : title ∉ rows.map (·.groupName)) : (groupOf rows title).teams = [] := by
  have none : rows.filter (·.groupName = title) = [] := by
    rw [List.filter_eq_nil_iff]
    intro t member same
    exact absent (List.mem_map.mpr ⟨t, member, of_decide_eq_true same⟩)
  rw [groupOf, none, List.map_nil]

theorem map_groupOf_other (rows : List TeamRow) {t : TeamRow} {titles : List String}
    (absent : t.groupName ∉ titles) :
    titles.map (groupOf (rows ++ [t])) = titles.map (groupOf rows) := by
  apply List.map_congr_left
  intro title member
  apply groupOf_other
  rintro rfl
  exact absent member

theorem titles_groupOf (rows : List TeamRow) (titles : List String) :
    (titles.map (groupOf rows)).map (·.title) = titles := by
  rw [List.map_map]
  exact List.map_id titles

/-- One more row goes to the group that it names, which is a new one if no row has named it. -/
theorem addTeam_groupOf {rows : List TeamRow} {titles : List String}
    (seen : FirstSeen (rows.map (·.groupName)) titles) (t : TeamRow) :
    addTeam t.groupName (ServingTeam.ofRow t) (titles.map (groupOf rows)) =
      (addName titles t.groupName).map (groupOf (rows ++ [t])) := by
  by_cases member : t.groupName ∈ titles
  · obtain ⟨front, back, cut⟩ := List.append_of_mem member
    have distinct := seen.nodup
    rw [cut, List.nodup_middle, List.nodup_cons, List.mem_append, not_or] at distinct
    obtain ⟨⟨before, behind⟩, -⟩ := distinct
    have first : (groupOf rows t.groupName).title ∉ (front.map (groupOf rows)).map (·.title) := by
      rwa [titles_groupOf]
    rw [addName_of_mem member, cut, List.map_append, List.map_append, List.map_cons, List.map_cons,
      map_groupOf_other rows before, map_groupOf_other rows behind, groupOf_own]
    exact addTeam_of_mem _ _ _ first
  · have absent : t.groupName ∉ rows.map (·.groupName) :=
      fun inside => member ((seen.all _).mpr inside)
    have new : t.groupName ∉ (titles.map (groupOf rows)).map (·.title) := by
      rwa [titles_groupOf]
    rw [addName_of_not_mem member, addTeam_of_not_mem _ new, List.map_append,
      map_groupOf_other rows member, List.map_singleton, groupOf_own, groupOf_absent absent,
      List.nil_append]

theorem groupTeams_concat (rows : List TeamRow) (t : TeamRow) :
    groupTeams (rows ++ [t]) = addTeam t.groupName (ServingTeam.ofRow t) (groupTeams rows) :=
  List.foldl_append

theorem groupTeams_eq (rows : List TeamRow) :
    groupTeams rows = (rows.map (·.groupName)).eraseDups.map (groupOf rows) := by
  -- From the end: the last row is added to the groups of all rows before it.
  induction rows using List.reverseRecOn with
  | nil => rfl
  | append_singleton rows t ih =>
    rw [groupTeams_concat, ih, addTeam_groupOf (.eraseDups _), List.map_append, List.map_singleton,
      eraseDups_concat]

theorem placed_groupTeams (rows : List TeamRow) :
    ((groupTeams rows).flatMap (·.placed)).Perm
      (rows.map fun t => (t.groupName, ServingTeam.ofRow t)) := by
  induction rows using List.reverseRecOn with
  | nil => exact List.Perm.refl _
  | append_singleton rows t ih =>
    rw [groupTeams_concat, List.map_append, List.map_singleton]
    exact (placed_addTeam _ _ _).trans (ih.append_right _)

/-- The groups are those that rows name, each once and in the order in which they are first named. A
group holds the teams of exactly the rows that name it, in the order of the rows; so no row is lost, no
row is there twice and none is in another group. -/
theorem groupTeams_stable_partition (rows : List TeamRow) :
    ((groupTeams rows).map (·.title)).Nodup ∧
    FirstSeen (rows.map (·.groupName)) ((groupTeams rows).map (·.title)) ∧
    (∀ g ∈ groupTeams rows, g.teams = (rows.filter (·.groupName = g.title)).map fun t =>
      ⟨t.teamKey, t.name, t.description.getD ""⟩) ∧
    ((groupTeams rows).flatMap fun g => g.teams.map fun team => (g.title, team)).Perm
      (rows.map fun t => (t.groupName, ⟨t.teamKey, t.name, t.description.getD ""⟩)) := by
  have titles : FirstSeen (rows.map (·.groupName)) ((groupTeams rows).map (·.title)) := by
    rw [groupTeams_eq, titles_groupOf]
    exact .eraseDups _
  refine ⟨titles.nodup, titles, ?_, placed_groupTeams rows⟩
  intro g member
  rw [groupTeams_eq] at member
  obtain ⟨title, -, rfl⟩ := List.mem_map.mp member
  rfl

def knownNames : List String := knownGroups.map (·.1)

theorem groupSort_of_not_mem {name : String} (unknown : name ∉ knownNames) : groupSort name = 90 := by
  unfold groupSort
  split
  next found =>
    have member := List.mem_of_find?_eq_some found
    have same := List.find?_some found
    exact absurd (List.mem_map.mpr ⟨_, member, of_decide_eq_true same⟩) unknown
  next => rfl

/-- The known groups are in order, and whatever comes behind them has one place that is later. -/
theorem sorted_known_append {others : List String} (unknown : ∀ name ∈ others, name ∉ knownNames) :
    (knownNames ++ others).Pairwise fun a b => groupSort a ≤ groupSort b := by
  have known : knownNames.Pairwise fun a b => groupSort a ≤ groupSort b := by decide
  have bounded : ∀ name ∈ knownNames, groupSort name ≤ 90 := by decide
  apply List.pairwise_append.mpr
  refine ⟨known, ?_, ?_⟩
  · apply List.pairwise_of_forall_mem_list
    intro a first b second
    exact Int.le_of_eq ((groupSort_of_not_mem (unknown a first)).trans
      (groupSort_of_not_mem (unknown b second)).symm)
  · intro a first b second
    rw [groupSort_of_not_mem (unknown b second)]
    exact bounded a first

/-- The groups that teams are in besides the known ones, as they first occur. -/
def otherNames (teams : List TeamItem) : List String :=
  ((teams.map (·.groupName)).removeAll knownNames).eraseDups

theorem mem_otherNames {teams : List TeamItem} {name : String} :
    name ∈ otherNames teams ↔ (∃ t ∈ teams, t.groupName = name) ∧ name ∉ knownNames := by
  simp [otherNames, List.removeAll]

theorem groupOptions_eq (teams : List TeamItem) :
    groupOptions teams = knownNames ++ otherNames teams := by
  have distinct : knownNames.eraseDups = knownNames := by decide
  have collected : teams.foldl (fun names t => addName names t.groupName) knownNames =
      knownNames ++ otherNames teams := by
    have added := foldl_addName knownNames (teams.map (·.groupName))
    rwa [List.eraseDups_append, distinct, List.foldl_map] at added
  have sorted : (knownNames ++ otherNames teams).Pairwise fun a b => groupSort a ≤ groupSort b :=
    sorted_known_append fun name member => (mem_otherNames.mp member).2
  change (teams.foldl _ knownNames).mergeSort _ = _
  rw [collected]
  exact List.mergeSort_of_pairwise (by simpa using sorted)

/-- The groups to choose from are the known ones and all that a team is in, each once, in the order of
groups: first the known ones as they always stand, then the others as they first occur. -/
theorem groupOptions_known_then_first_seen (teams : List TeamItem) :
    (groupOptions teams).Nodup ∧
    (∀ name, name ∈ groupOptions teams ↔ name ∈ knownNames ∨ ∃ t ∈ teams, t.groupName = name) ∧
    (groupOptions teams).Pairwise (fun a b => groupSort a ≤ groupSort b) ∧
    ∃ others, FirstSeen ((teams.map (·.groupName)).removeAll knownNames) others ∧
      groupOptions teams =
        ["Frontline Teams", "Creative & Technical", "Next Generation", "Support"] ++ others := by
  have unknown : ∀ name ∈ otherNames teams, name ∉ knownNames :=
    fun name member => (mem_otherNames.mp member).2
  have seen : FirstSeen ((teams.map (·.groupName)).removeAll knownNames) (otherNames teams) :=
    .eraseDups _
  rw [groupOptions_eq]
  refine ⟨?once, ?complete, sorted_known_append unknown, otherNames teams, seen, rfl⟩
  case once =>
    apply List.nodup_append.mpr
    refine ⟨by decide, seen.nodup, ?_⟩
    intro known first other second same
    exact unknown other second (same ▸ first)
  case complete =>
    intro name
    rw [List.mem_append, mem_otherNames]
    by_cases known : name ∈ knownNames <;> simp [known]

end ParishSite
