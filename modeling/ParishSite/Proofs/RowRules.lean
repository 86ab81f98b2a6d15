import ParishSite.Backend.Tables
import ParishSite.Content.Team
import ParishSite.Proofs.TrimmedText

/-! What the rows of each table must hold, said of the columns that are written and not of the form
that was typed. A form has a fault at a field exactly when its columns break the rule of that field,
so a form without faults is written as a row that the table accepts. -/

namespace ParishSite

namespace Backend

/-- What a column must hold. -/
inductive Rule
  /-- A text with at least so many characters. -/
  | text (least : Nat)
  /-- Any value but nothing. -/
  | given
deriving DecidableEq

def Rule.meets : Rule → Json → Bool
  | text least, .str s => least ≤ s.length
  | text _, _ => false
  | given, .null => false
  | given, _ => true

namespace Table

/-- The rules of a table, in the order of its form. A leader is asked for where there is a column. -/
def rules (withLeader : Bool) : Table → List (String × Rule)
  | events => [("title", .text 3), ("start", .given), ("end", .given), ("location", .text 3)]
  | teams => [("group_name", .text 2), ("name", .text 3)] ++
      (if withLeader then [("leader", .text 2)] else []) ++ [("description", .text 10)]
  | groups => [("name", .text 3), ("meeting_time", .text 3), ("description", .text 10)]
  | announcements => [("title", .text 3), ("content", .text 10)]
  | believersClasses => [("starts_label", .text 3), ("duration_label", .text 2)]

def broken (t : Table) (withLeader : Bool) (row : List (String × Json)) : List String :=
  (t.rules withLeader).flatMap fun (column, rule) =>
    if (Json.find? column row).any rule.meets then [] else [column]

/-- A row that a table may hold: no column twice, no white space at the end of a text, and no broken
rule. The place of a team's group is the one that belongs to the name of the group. -/
structure Accepts (t : Table) (row : List (String × Json)) : Prop where
  distinct : (row.map Prod.fst).Nodup
  trimmed : ∀ column s, (column, Json.str s) ∈ row → Text.trimmed s = s
  rules : t.broken (Json.find? "leader" row).isSome row = []
  placed : t = teams → ∃ group, Json.find? "group_name" row = some (.str group) ∧
    Json.find? "group_sort" row = some (.int (groupSort group)) ∧
    Json.find? "is_active" row = some (.bool true)

end Table
end Backend

open Backend (Rule Table)

def Json.IsTrimmed (v : Json) : Prop := ∀ s, v = .str s → Text.trimmed s = s

theorem Json.isTrimmed_str {s : String} (trimmed : Text.trimmed s = s) : (Json.str s).IsTrimmed := by
  intro t same
  rw [← Json.str.inj same]
  exact trimmed

theorem Json.isTrimmed_trimmed (s : String) : (Json.str (Text.trimmed s)).IsTrimmed :=
  isTrimmed_str (Text.trimmed_trimmed s)

theorem EventCategory.name_trimmed (c : EventCategory) : Text.trimmed c.name = c.name := by
  cases c <;> decide

theorem AnnouncementStatus.name_trimmed (status : AnnouncementStatus) :
    Text.trimmed status.name = status.name := by
  cases status <;> decide

theorem Json.isTrimmed_filledIn (s : String) : (Json.text? (filledIn? s)).IsTrimmed := by
  unfold filledIn?
  dsimp only
  split
  · exact fun t same => nomatch same
  · exact isTrimmed_trimmed s

theorem Json.isTrimmed_instant (t : Option Time.Instant) : (Json.instant? t).IsTrimmed := by
  cases t with
  | none => exact fun s same => nomatch same
  | some t => exact isTrimmed_str (Time.Rfc3339.writeZ_trimmed t)

theorem meets_trimmed (s : String) (least : Nat) :
    (Rule.text least).meets (.str (Text.trimmed s)) = decide (least ≤ Text.trimmedLength s) := by
  rw [Rule.meets, Text.length_trimmed]

/-- A text that was left blank is no text, and too short for any rule. -/
theorem meets_filledIn (s : String) {least : Nat} (some : 0 < least) :
    (Rule.text least).meets (Json.text? (filledIn? s)) = decide (least ≤ Text.trimmedLength s) := by
  unfold filledIn?
  dsimp only
  split
  · next blank =>
    rw [← Text.length_trimmed, blank]
    exact (decide_eq_false (Nat.not_le.mpr some)).symm
  · exact meets_trimmed s least

theorem meets_instant (t : Option Time.Instant) :
    Rule.given.meets (Json.instant? t) = t.isSome := by
  cases t <;> rfl

namespace StartsLabel

/-- A date is as long in its new form as any text needs to be. -/
theorem length_normalized (label : String) :
    3 ≤ (normalized label).length ↔ 3 ≤ Text.trimmedLength label := by
  unfold normalized Text.trimmedLength
  dsimp only
  rw [String.length_ofList]
  cases found : date? (Text.trim label.toList) with
  | none => rfl
  | some d =>
    rw [Option.elim_some]
    have typed : (Text.trim label.toList).length = 10 := by
      unfold date? at found
      split at found
      · next cut => rw [cut]; rfl
      · cases found
    have padded : 2 ≤ (Time.Rfc3339.padded 2 d.day).length := by
      rw [Time.Rfc3339.padded, List.length_append, List.length_replicate]
      omega
    have written : 3 ≤ (dayFirst d).length := by
      rw [dayFirst, List.length_append, List.length_append, List.length_cons]
      omega
    omega

end StartsLabel

namespace FieldFault

theorem whenShort_fields (text field message : String) (least : Nat) :
    (whenShort text least field message).map FieldFault.field =
      if decide (least ≤ Text.trimmedLength text) then [] else [field] := by
  unfold whenShort when
  by_cases long : least ≤ Text.trimmedLength text
  · rw [decide_eq_true long, decide_eq_false (Nat.not_lt.mpr long)]
    rfl
  · rw [decide_eq_false long, decide_eq_true (Nat.not_le.mp long)]
    rfl

theorem whenNone_fields (value : Option α) (field message : String) :
    (when value.isNone field message).map FieldFault.field =
      if value.isSome then [] else [field] := by
  cases value <;> rfl

end FieldFault

open FieldFault

namespace EventForm

theorem faults_fields (f : EventForm) :
    f.faults.map FieldFault.field = Table.events.broken false f.columns := by
  have title : Json.find? "title" f.columns = some (.str (Text.trimmed f.title)) := rfl
  have start : Json.find? "start" f.columns = some (Json.instant? f.start) := rfl
  have finish : Json.find? "end" f.columns = some (Json.instant? f.finish) := rfl
  have location : Json.find? "location" f.columns = some (Json.text? (filledIn? f.location)) := rfl
  have least : 0 < 3 := by decide
  simp only [faults, List.map_append, whenShort_fields, whenNone_fields, Table.broken, Table.rules,
    List.flatMap_cons, List.flatMap_nil, title, start, finish, location, Option.any_some,
    meets_trimmed, meets_instant, meets_filledIn f.location least, List.append_nil, List.append_assoc]

theorem columns_trimmed (f : EventForm) : ∀ column ∈ f.columns, column.2.IsTrimmed := by
  have category : f.category.toJson.IsTrimmed := Json.isTrimmed_str f.category.name_trimmed
  simp only [columns, List.forall_mem_cons]
  exact ⟨Json.isTrimmed_trimmed _, Json.isTrimmed_filledIn _, category, Json.isTrimmed_filledIn _,
    Json.isTrimmed_instant _, Json.isTrimmed_instant _, Json.isTrimmed_filledIn _,
    fun _ member => absurd member List.not_mem_nil⟩

end EventForm

namespace TeamForm

theorem faults_fields (f : TeamForm) (withLeader : Bool) :
    (f.faults withLeader).map FieldFault.field =
      Table.teams.broken withLeader (f.columns withLeader) := by
  have group : Json.find? "group_name" (f.columns withLeader) =
    some (.str (Text.trimmed f.groupName)) := rfl
  have name : Json.find? "name" (f.columns withLeader) = some (.str (Text.trimmed f.name)) := rfl
  have leader : Json.find? "leader" (f.columns true) = some (Json.text? (filledIn? f.leader)) := rfl
  have description : Json.find? "description" (f.columns withLeader) =
    some (Json.text? (filledIn? f.description)) := rfl
  have least : 0 < 2 := by decide
  have most : 0 < 10 := by decide
  cases withLeader
  all_goals
    simp only [faults, List.map_append, whenShort_fields, Table.broken, Table.rules,
      Bool.false_eq_true, if_true, if_false, List.cons_append, List.nil_append,
      List.flatMap_cons, List.flatMap_nil, group, name, leader, description, Option.any_some,
      meets_trimmed, meets_filledIn f.leader least, meets_filledIn f.description most,
      List.append_nil, List.append_assoc]

theorem columns_trimmed (f : TeamForm) (withLeader : Bool) :
    ∀ column ∈ f.columns withLeader, column.2.IsTrimmed := by
  have flag : (Json.bool true).IsTrimmed := fun _ same => nomatch same
  have place : (Json.int (groupSort (Text.trimmed f.groupName))).IsTrimmed := fun _ same => nomatch same
  have leader : ∀ column ∈ (if withLeader then [("leader", Json.text? (filledIn? f.leader))] else []),
      column.2.IsTrimmed := by
    cases withLeader with
    | false => exact fun _ member => absurd member List.not_mem_nil
    | true =>
      intro column member
      rw [List.mem_singleton.mp member]
      dsimp only
      exact Json.isTrimmed_filledIn f.leader
  simp only [columns, List.cons_append, List.nil_append, List.forall_mem_cons]
  exact ⟨Json.isTrimmed_trimmed _, place, Json.isTrimmed_trimmed _, Json.isTrimmed_filledIn _, flag, leader⟩

end TeamForm

namespace GroupForm

theorem faults_fields (f : GroupForm) :
    f.faults.map FieldFault.field = Table.groups.broken false f.columns := by
  have name : Json.find? "name" f.columns = some (.str (Text.trimmed f.name)) := rfl
  have meeting : Json.find? "meeting_time" f.columns = some (.str (Text.trimmed f.meetingTime)) := rfl
  have description : Json.find? "description" f.columns = some (.str (Text.trimmed f.description)) := rfl
  simp only [faults, List.map_append, whenShort_fields, Table.broken, Table.rules, List.flatMap_cons,
    List.flatMap_nil, name, meeting, description, Option.any_some, meets_trimmed, List.append_nil,
    List.append_assoc]

theorem columns_trimmed (f : GroupForm) : ∀ column ∈ f.columns, column.2.IsTrimmed := by
  simp only [columns, List.forall_mem_cons]
  exact ⟨Json.isTrimmed_trimmed _, Json.isTrimmed_trimmed _, Json.isTrimmed_trimmed _,
    fun _ member => absurd member List.not_mem_nil⟩

end GroupForm

namespace AnnouncementForm

theorem faults_fields (f : AnnouncementForm) :
    f.faults.map FieldFault.field = Table.announcements.broken false f.columns := by
  have title : Json.find? "title" f.columns = some (.str (Text.trimmed f.title)) := rfl
  have content : Json.find? "content" f.columns = some (.str (Text.trimmed f.content)) := rfl
  simp only [faults, List.map_append, whenShort_fields, Table.broken, Table.rules, List.flatMap_cons,
    List.flatMap_nil, title, content, Option.any_some, meets_trimmed, List.append_nil]

theorem columns_trimmed (f : AnnouncementForm) : ∀ column ∈ f.columns, column.2.IsTrimmed := by
  have status : f.status.toJson.IsTrimmed := Json.isTrimmed_str f.status.name_trimmed
  simp only [columns, List.forall_mem_cons]
  exact ⟨Json.isTrimmed_trimmed _, Json.isTrimmed_trimmed _, status,
    fun _ member => absurd member List.not_mem_nil⟩

end AnnouncementForm

namespace BelieversClassForm

theorem faults_fields (f : BelieversClassForm) :
    f.faults.map FieldFault.field = Table.believersClasses.broken false f.columns := by
  have starts : Json.find? "starts_label" f.columns =
    some (.str (StartsLabel.normalized f.startsLabel)) := rfl
  have duration : Json.find? "duration_label" f.columns =
    some (.str (Text.trimmed f.durationLabel)) := rfl
  have normal : (Rule.text 3).meets (.str (StartsLabel.normalized f.startsLabel)) =
      decide (3 ≤ Text.trimmedLength f.startsLabel) := by
    rw [Rule.meets]
    exact decide_eq_decide.mpr (StartsLabel.length_normalized f.startsLabel)
  simp only [faults, List.map_append, whenShort_fields, Table.broken, Table.rules, List.flatMap_cons,
    List.flatMap_nil, starts, duration, Option.any_some, normal, meets_trimmed, List.append_nil]

theorem columns_trimmed (f : BelieversClassForm) : ∀ column ∈ f.columns, column.2.IsTrimmed := by
  have starts := Json.isTrimmed_str (StartsLabel.normalized_trimmed f.startsLabel)
  have flag : (Json.bool f.isActive).IsTrimmed := fun _ same => nomatch same
  simp only [columns, List.forall_mem_cons]
  exact ⟨starts, Json.isTrimmed_trimmed _, flag, fun _ member => absurd member List.not_mem_nil⟩

end BelieversClassForm

theorem Json.mem_of_find {column : String} {v : Json} {row : List (String × Json)}
    (found : find? column row = some v) : (column, v) ∈ row := by
  induction row with
  | nil => cases found
  | cons first row ih =>
    obtain ⟨name, value⟩ := first
    unfold find? at found
    split at found
    · next same =>
      rw [same, Option.some.inj found]
      exact List.mem_cons_self
    · exact List.mem_cons_of_mem _ (ih found)

theorem Json.find_of_mem {column : String} {v : Json} {row : List (String × Json)}
    (distinct : (row.map Prod.fst).Nodup) (member : (column, v) ∈ row) :
    find? column row = some v := by
  induction row with
  | nil => exact absurd member List.not_mem_nil
  | cons first row ih =>
    obtain ⟨name, value⟩ := first
    obtain ⟨apart, rest⟩ := List.nodup_cons.mp distinct
    unfold find?
    rcases List.mem_cons.mp member with same | member
    · cases same
      exact if_pos rfl
    · have other : name ≠ column := by
        intro same
        apply apart
        rw [same]
        exact List.mem_map.mpr ⟨_, member, rfl⟩
      rw [if_neg other]
      exact ih rest member

namespace Backend.Table

theorem broken_eq_nil {t : Table} {withLeader : Bool} {row : List (String × Json)} :
    t.broken withLeader row = [] ↔
      ∀ rule ∈ t.rules withLeader, (Json.find? rule.1 row).any rule.2.meets = true := by
  unfold broken
  rw [List.flatMap_eq_nil_iff]
  constructor
  · intro kept rule member
    by_contra fails
    have nothing := kept rule member
    dsimp only at nothing
    rw [if_neg fails] at nothing
    cases nothing
  · intro kept rule member
    exact if_pos (kept rule member)

theorem accepts_plain {t : Table} {row : List (String × Json)} (other : t ≠ teams)
    (distinct : (row.map Prod.fst).Nodup) (trimmed : ∀ column ∈ row, column.2.IsTrimmed)
    (noLeader : Json.find? "leader" row = none) (kept : t.broken false row = []) : t.Accepts row where
  distinct := distinct
  trimmed column s member := trimmed (column, .str s) member s rfl
  rules := by
    rw [noLeader]
    exact kept
  placed same := absurd same other

/-- A row may have further columns, as long as there is no leader among them. -/
theorem Accepts.extend {t : Table} {row whole : List (String × Json)} (accepts : t.Accepts row)
    (inside : row ⊆ whole) (distinct : (whole.map Prod.fst).Nodup)
    (trimmed : ∀ column ∈ whole, column.2.IsTrimmed)
    (leader : ∀ v, ("leader", v) ∈ whole → ("leader", v) ∈ row) : t.Accepts whole where
  distinct := distinct
  trimmed column s member := trimmed (column, .str s) member s rfl
  rules := by
    have same : (Json.find? "leader" whole).isSome = (Json.find? "leader" row).isSome := by
      cases found : Json.find? "leader" whole with
      | some v => rw [Json.find_of_mem accepts.distinct (leader v (Json.mem_of_find found))]
      | none =>
        cases known : Json.find? "leader" row with
        | none => rfl
        | some v =>
          rw [Json.find_of_mem distinct (inside (Json.mem_of_find known))] at found
          cases found
    rw [same, broken_eq_nil]
    intro rule member
    have kept := broken_eq_nil.mp accepts.rules rule member
    cases found : Json.find? rule.1 row with
    | none =>
      rw [found] at kept
      cases kept
    | some v =>
      rw [found] at kept
      rw [Json.find_of_mem distinct (inside (Json.mem_of_find found))]
      exact kept
  placed same := by
    obtain ⟨group, name, sort, active⟩ := accepts.placed same
    exact ⟨group, Json.find_of_mem distinct (inside (Json.mem_of_find name)),
      Json.find_of_mem distinct (inside (Json.mem_of_find sort)),
      Json.find_of_mem distinct (inside (Json.mem_of_find active))⟩

end Backend.Table

theorem EventForm.accepted {f : EventForm} (clean : f.faults = []) :
    Table.events.Accepts f.columns := by
  refine Table.accepts_plain (by decide) ?_ f.columns_trimmed rfl ?_
  · change List.Nodup ["title", "description", "category", "location", "start", "end", "image_url"]
    decide
  · rw [← faults_fields, clean]
    rfl

theorem GroupForm.accepted {f : GroupForm} (clean : f.faults = []) :
    Table.groups.Accepts f.columns := by
  refine Table.accepts_plain (by decide) ?_ f.columns_trimmed rfl ?_
  · change List.Nodup ["name", "meeting_time", "description"]
    decide
  · rw [← faults_fields, clean]
    rfl

theorem AnnouncementForm.accepted {f : AnnouncementForm} (clean : f.faults = []) :
    Table.announcements.Accepts f.columns := by
  refine Table.accepts_plain (by decide) ?_ f.columns_trimmed rfl ?_
  · change List.Nodup ["title", "content", "status"]
    decide
  · rw [← faults_fields, clean]
    rfl

theorem BelieversClassForm.accepted {f : BelieversClassForm} (clean : f.faults = []) :
    Table.believersClasses.Accepts f.columns := by
  refine Table.accepts_plain (by decide) ?_ f.columns_trimmed rfl ?_
  · change List.Nodup ["starts_label", "duration_label", "is_active"]
    decide
  · rw [← faults_fields, clean]
    rfl

private theorem classFallback : Text.Unbroken "believers-class".toList :=
  Text.Unbroken.of_all (by decide)

private theorem teamFallback : Text.Unbroken "team".toList := Text.Unbroken.of_all (by decide)

/-- The columns that nobody types in are trimmed too, and none of them has a rule. -/
theorem BelieversClassForm.new_accepted {f : BelieversClassForm} (clean : f.faults = [])
    (suffix : KeySuffix) :
    Table.believersClasses.Accepts
      (newColumns (keyFor f.startsLabel "believers-class" suffix) ++ f.columns) := by
  have key := Json.isTrimmed_str (keyFor_trimmed f.startsLabel classFallback suffix)
  have fixed : ∀ s ∈ ["Believers Class", "/connect", ""], Text.trimmed s = s := by decide +kernel
  have names : (newColumns (keyFor f.startsLabel "believers-class" suffix) ++ f.columns).map Prod.fst =
      ["class_key", "title", "register_url", "summary", "time_label", "location", "learn_point_1",
        "learn_point_2", "learn_point_3", "starts_label", "duration_label", "is_active"] := rfl
  refine (accepted clean).extend (List.subset_append_right _ _) ?_ ?_ ?_
  · rw [names]
    decide
  · intro column member
    rcases List.mem_append.mp member with new | typed
    · simp only [newColumns, List.mem_append, List.mem_cons, List.not_mem_nil, or_false,
        List.mem_map] at new
      rcases new with (rfl | rfl | rfl) | ⟨name, -, rfl⟩
      · exact key
      · exact Json.isTrimmed_str (fixed _ (by simp))
      · exact Json.isTrimmed_str (fixed _ (by simp))
      · exact Json.isTrimmed_str (fixed _ (by simp))
    · exact f.columns_trimmed column typed
  · intro v member
    have name : "leader" ∈ (newColumns (keyFor f.startsLabel "believers-class" suffix) ++
        f.columns).map Prod.fst := List.mem_map_of_mem member
    rw [names] at name
    exact absurd name (by decide)

namespace TeamForm

/-- A team that was checked without its leader may be written without it, and so may one that was
checked with it. -/
theorem clean_without {f : TeamForm} {hasLeader withLeader : Bool} (clean : f.faults hasLeader = [])
    (known : withLeader = true → hasLeader = true) : f.faults withLeader = [] := by
  cases withLeader with
  | true =>
    rw [known rfl] at clean
    exact clean
  | false =>
    simp only [faults, List.append_eq_nil_iff] at clean ⊢
    exact ⟨⟨clean.1.1, rfl⟩, clean.2⟩

theorem accepted {f : TeamForm} {withLeader : Bool} (clean : f.faults withLeader = []) :
    Table.teams.Accepts (f.columns withLeader) where
  distinct := by
    cases withLeader
    · change List.Nodup ["group_name", "group_sort", "name", "description", "is_active"]
      decide
    · change List.Nodup ["group_name", "group_sort", "name", "description", "is_active", "leader"]
      decide
  trimmed column s member := f.columns_trimmed withLeader (column, .str s) member s rfl
  rules := by
    have leader : (Json.find? "leader" (f.columns withLeader)).isSome = withLeader := by
      cases withLeader <;> rfl
    rw [leader, ← faults_fields, clean]
    rfl
  placed _ := ⟨Text.trimmed f.groupName, rfl, rfl, rfl⟩

/-- A new team has its key and its place besides. -/
theorem new_accepted {f : TeamForm} {withLeader : Bool} (clean : f.faults withLeader = [])
    (suffix : KeySuffix) (sort : Int) :
    Table.teams.Accepts (f.columns withLeader ++
      [("team_key", .str (keyFor f.name "team" suffix)), ("team_sort", .int sort)]) := by
  have key := Json.isTrimmed_str (keyFor_trimmed f.name teamFallback suffix)
  have place : (Json.int sort).IsTrimmed := fun _ same => nomatch same
  refine (accepted clean).extend (List.subset_append_left _ _) ?_ ?_ ?_
  · cases withLeader
    · change List.Nodup ["group_name", "group_sort", "name", "description", "is_active", "team_key",
        "team_sort"]
      decide
    · change List.Nodup ["group_name", "group_sort", "name", "description", "is_active", "leader",
        "team_key", "team_sort"]
      decide
  · intro column member
    rcases List.mem_append.mp member with typed | new
    · exact f.columns_trimmed withLeader column typed
    · rcases List.mem_cons.mp new with rfl | new
      · exact key
      · rw [List.mem_singleton.mp new]
        exact place
  · intro v member
    rcases List.mem_append.mp member with typed | new
    · exact typed
    · have name : "leader" ∈ ["team_key", "team_sort"] := List.mem_map_of_mem (f := Prod.fst) new
      exact absurd name (by decide)

end TeamForm
end ParishSite
