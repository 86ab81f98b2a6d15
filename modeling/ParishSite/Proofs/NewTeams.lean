import ParishSite.Proofs.LeaderColumn
import ParishSite.Proofs.TeamPlaces

/-! Creating a team. Whatever the store replies, at most one request to add the team succeeds, and
none is made unless the places in its group were read. The place that is written lies behind all of
these, in whatever order they were read. -/

namespace ParishSite

open Web (Outgoing Reply)

private theorem highest_le_iff (taken : List (Option Int)) (start bound : Int) :
    taken.foldl (fun highest sort => max highest (sort.getD defaultTeamSort)) start ≤ bound ↔
      start ≤ bound ∧ ∀ sort ∈ taken, sort.getD defaultTeamSort ≤ bound := by
  induction taken generalizing start with
  | nil => simp
  | cons sort taken ih =>
    rw [List.foldl_cons, ih, Int.max_le, List.forall_mem_cons, and_assoc]

/-- The next place is the least that is a whole step behind the start and behind every place that is
taken. -/
theorem nextTeamSort_le_iff (taken : List (Option Int)) (place : Int) :
    nextTeamSort taken ≤ place ↔
      10 ≤ place ∧ ∀ sort ∈ taken, sort.getD defaultTeamSort + 10 ≤ place := by
  have highest := highest_le_iff taken 0 (place - 10)
  unfold nextTeamSort
  constructor
  · intro behind
    obtain ⟨start, all⟩ := highest.mp (by omega)
    refine ⟨by omega, ?_⟩
    intro sort member
    have := all sort member
    omega
  · intro ⟨start, all⟩
    have := highest.mpr ⟨by omega, fun sort member => by have := all sort member; omega⟩
    omega

theorem ten_le_nextTeamSort (taken : List (Option Int)) : 10 ≤ nextTeamSort taken :=
  ((nextTeamSort_le_iff taken _).mp (Int.le_refl _)).1

theorem lt_nextTeamSort {taken : List (Option Int)} {sort : Option Int} (member : sort ∈ taken) :
    sort.getD defaultTeamSort < nextTeamSort taken := by
  have behind := ((nextTeamSort_le_iff taken _).mp (Int.le_refl _)).2 sort member
  omega

theorem nextTeamSort_perm {taken order : List (Option Int)} (same : order.Perm taken) :
    nextTeamSort order = nextTeamSort taken := by
  have bounds (place : Int) : nextTeamSort order ≤ place ↔ nextTeamSort taken ≤ place := by
    rw [nextTeamSort_le_iff, nextTeamSort_le_iff]
    simp only [same.mem_iff]
  apply Int.le_antisymm
  · exact (bounds _).mpr (Int.le_refl _)
  · exact (bounds _).mp (Int.le_refl _)

/-- Places below 2147483638 leave room for the next one among the numbers of 32 bits. -/
theorem nextTeamSort_fits {taken : List (Option Int)}
    (room : ∀ sort ∈ taken, sort.getD defaultTeamSort ≤ 2147483637) :
    nextTeamSort taken ≤ 2147483647 := by
  rw [nextTeamSort_le_iff]
  refine ⟨by decide, ?_⟩
  intro sort member
  have := room sort member
  omega

example : nextTeamSort [some (-5), none, some 20] = 110 := by decide

namespace Web

def Reply.succeeded : Reply → Bool
  | .dropped => false
  | .answered status _ => isSuccess status

def Outgoing.written (column : String) (request : Outgoing) : List Json :=
  match request.body with
  | some (.obj row) => (row.filter fun (name, _) => name = column).map Prod.snd
  | _ => []

end Web

def posts (exchanges : History) : History :=
  exchanges.filter fun exchange => exchange.1.method = .post

namespace Backend

theorem Roster.sortDecoder_yields :
    sortDecoder.Yields fun sort => ∀ n, sort = some n → IsInt32 n :=
  Json.Record.Yields.decoder
    (.field (.of fun _ within => within) Json.Decoder.int32_yields.optional unplaced) _

theorem not_succeeded_of_lacksColumn {column : String} {reply : Reply}
    (lacks : lacksColumn column reply = true) : reply.succeeded = false := by
  cases reply with
  | dropped => rfl
  | answered status body =>
    simp only [lacksColumn, Bool.and_eq_true, Bool.not_eq_true'] at lacks
    exact lacks.1

namespace Course

variable {e : Bool → Errand} {read : Reply → Except Fault α} {asks flag kept : Bool}
  {asked : List (Errand × Reply)} {result : Except Fault α}

theorem length_le_two (course : Course e read asks flag asked result kept) : asked.length ≤ 2 := by
  cases course <;> simp

theorem forms (course : Course e read asks flag asked result kept) :
    ∀ pair ∈ asked, ∃ withLeader, pair.1 = e withLeader := by
  cases course with
  | unsent => simp
  | answered ok => exact List.forall_mem_singleton.mpr ⟨asks, rfl⟩
  | failed error other => exact List.forall_mem_singleton.mpr ⟨asks, rfl⟩
  | cut _ error missing => simp
  | retried _ error missing => simp

/-- A request is made once more only after one that did not succeed, so that at most one does. -/
theorem succeeds_once (honest : Honest "leader" read)
    (course : Course e read asks flag asked result kept) :
    asked.countP (fun pair => pair.2.succeeded) ≤ 1 := by
  cases course with
  | unsent => simp
  | answered ok => exact List.countP_le_length
  | failed error other => exact List.countP_le_length
  | cut _ error missing => exact List.countP_le_length
  | @retried reply again fault _ error missing =>
    -- the client's own fault for a success without rows does not read as want of a column
    have first : reply.succeeded = false := by
      apply not_succeeded_of_lacksColumn
      rw [← honest.failed error]
      exact missing
    rw [List.countP_cons_of_neg (by simp [first])]
    exact List.countP_le_length

end Course

namespace RosterStep

/-- What is exchanged to create a team: the places in its group are read first, and only if they can
be read the team is added, once at most, and behind all of them. -/
structure Founds (a : Access) (form : TeamForm) (token : String) (new : History) : Prop where
  twice : (posts new).length ≤ 2
  once : (posts new).countP (fun post => post.2.succeeded) ≤ 1
  teams : ∀ post ∈ posts new,
    post.1.url = a.url.extended ((Client.tablePath Table.teams.name).map String.toList)
  behind : posts new ≠ [] → ∃ place taken,
    new = (a.outgoing (placing form token), place) :: posts new ∧
    Client.outcomeOf (.list Roster.sortDecoder) place = .ok taken ∧
    (∀ n, some n ∈ taken → IsInt32 n) ∧
    ((∀ sort ∈ taken, sort.getD defaultTeamSort ≤ 2147483637) →
      ∃ last : Int, 10 ≤ last ∧ last ≤ 2147483647 ∧
        (∀ sort ∈ taken, sort.getD defaultTeamSort < last) ∧
        (∀ order, order.Perm taken → nextTeamSort order = last) ∧
        ∀ post ∈ posts new, post.1.written "team_sort" = [.int last])

theorem posts_placing {a : Access} {form : TeamForm} {token : String} {place : Reply}
    {rest : History} :
    posts ((a.outgoing (placing form token), place) :: rest) = posts rest := rfl

theorem founding_written (a : Access) (form : TeamForm) (key : String) (sort : Int) (token : String)
    (withLeader : Bool) :
    (a.outgoing (founding form key sort token withLeader)).written "team_sort" = [.int sort] := by
  cases withLeader <;> rfl

theorem Goes.founds {a : Access} {form : TeamForm} {token : String} {flag kept : Bool}
    {asked : List (Errand × Reply)} {outcome : Except Fault TeamItem}
    (goes : Goes (.create form token) flag asked outcome kept) :
    Founds a form token (asked.map a.exchange) := by
  cases goes with
  | unplaced place =>
    have none : posts (asked.map a.exchange) = [] := by
      rcases place with same | ⟨reply, same⟩
      · rw [same]
        rfl
      · rw [same]
        rfl
    constructor
    · simp [none]
    · simp [none]
    · simp [none]
    · exact fun some => absurd none some
  | @create _ _ _ place taken key asked row _ placed course =>
    have founded : ∀ post ∈ asked.map a.exchange, ∃ withLeader,
        post.1 = a.outgoing (founding form key (nextTeamSort taken) token withLeader) := by
      intro post member
      obtain ⟨pair, inside, rfl⟩ := List.mem_map.mp member
      obtain ⟨withLeader, same⟩ := course.forms pair inside
      exact ⟨withLeader, congrArg a.outgoing same⟩
    have all : posts (((placing form token, place) :: asked).map a.exchange) =
        asked.map a.exchange := by
      rw [List.map_cons]
      refine posts_placing.trans (List.filter_eq_self.mpr ?_)
      intro post member
      obtain ⟨withLeader, same⟩ := founded post member
      rw [same]
      exact decide_eq_true rfl
    constructor
    · rw [all, List.length_map]
      exact course.length_le_two
    · rw [all, List.countP_map]
      exact course.succeeds_once readAdded_honest
    · rw [all]
      intro post member
      obtain ⟨withLeader, same⟩ := founded post member
      rw [same]
      rfl
    · rw [all]
      refine fun _ => ⟨place, taken, rfl, placed, ?_, ?_⟩
      · intro n member
        obtain ⟨_, _, -, -, read⟩ := Client.outcomeOf_ok_iff.mp placed
        exact Roster.sortDecoder_yields.list _ _ _ (Json.of_read read) _ member n rfl
      · intro room
        refine ⟨nextTeamSort taken, ten_le_nextTeamSort taken, nextTeamSort_fits room, ?_, ?_, ?_⟩
        · exact fun sort member => lt_nextTeamSort member
        · exact fun order same => nextTeamSort_perm same
        · intro post member
          obtain ⟨withLeader, same⟩ := founded post member
          rw [same]
          exact founding_written a form key _ token withLeader

/-- Whatever the form, the token and the surroundings, and whether or not the table is taken to have
the column of leaders, a team is created once at most and stands last. -/
theorem new_team_added_once_and_last (s : Surroundings) (t : Transcript) (flag : Bool)
    (form : TeamForm) (token : String) :
    (runAct s flag t ((RosterStep.create form token).call none)).2 = t ∧
    ∀ a, ∃ new, (runAct s flag t ((RosterStep.create form token).call (some a))).2.exchanges =
      t.exchanges ++ new ∧ Founds a form token new := by
  constructor
  · rw [call_none]
  · intro a
    obtain ⟨asked, exchanges, goes⟩ := create_goes form token
    exact ⟨asked.map a.exchange, exchanges, Goes.founds goes⟩

/-- A store with two teams in the group, one of them without a place, that has no column of leaders
and adds a row without showing it. -/
private def leaderless : Surroundings :=
  { Surroundings.unmoved .dropped with
    reply := fun past _ =>
      match past with
      | [] => .answered 200
          (some (Text.Utf8.encode "[\x7b\"team_sort\":null\x7d,\x7b\"team_sort\":-5\x7d]".toList))
      | [_] => .answered 400 (some (Text.Utf8.encode "\x7b\"code\":\"42703\"\x7d".toList))
      | _ => .answered 201 (some (Text.Utf8.encode "[]".toList)) }

private def newTeam : TeamForm := ⟨"Support", "Kitchen", "Mary", "Cooks after the service"⟩

/-- The team is sent twice, added by the second request alone, and stands behind the place 100. -/
theorem kitchen_added_once :
    let access : Access := ⟨Settings.defaultChannelUrl, "key"⟩
    let ended := runAct leaderless true .empty
      ((RosterStep.create newTeam "token").call (some access))
    Founds access newTeam "token" ended.2.exchanges ∧
      (posts ended.2.exchanges).map (fun post =>
        (post.1.written "team_sort" matches [.int 110], post.2.succeeded)) =
        [(true, false), (true, true)] := by
  intro access ended
  obtain ⟨new, exchanges, founds⟩ :=
    (new_team_added_once_and_last leaderless .empty true newTeam "token").2 access
  have all : ended.2.exchanges = new := exchanges
  refine ⟨?_, by decide +kernel⟩
  rw [all]
  exact founds

end RosterStep
end Backend
end ParishSite
