import ParishSite.Proofs.HandlingRuns
import ParishSite.Proofs.Mediation

/-! Every row that is written is one that its table accepts, whatever requests come one after another
and whatever is remembered between them. A form that would make another row is refused with the fields
that are wrong, and nothing is written for it. -/

namespace ParishSite

namespace Backend.Table

abbrev Form : Table → Type
  | events => EventForm
  | teams => TeamForm
  | groups => GroupForm
  | announcements => AnnouncementForm
  | believersClasses => BelieversClassForm

def formDecoder : (t : Table) → Json.Decoder t.Form
  | events => EventForm.decoder
  | teams => TeamForm.decoder
  | groups => GroupForm.decoder
  | announcements => AnnouncementForm.decoder
  | believersClasses => BelieversClassForm.decoder

def formFaults (hasLeader : Bool) : (t : Table) → t.Form → List FieldFault
  | events, f => EventForm.faults f
  | teams, f => TeamForm.faults f hasLeader
  | groups, f => GroupForm.faults f
  | announcements, f => AnnouncementForm.faults f
  | believersClasses, f => BelieversClassForm.faults f

def formColumns (hasLeader : Bool) : (t : Table) → t.Form → List (String × Json)
  | events, f => EventForm.columns f
  | teams, f => TeamForm.columns f hasLeader
  | groups, f => GroupForm.columns f
  | announcements, f => AnnouncementForm.columns f
  | believersClasses, f => BelieversClassForm.columns f

/-- The faults of a form name the columns that would break their rules. -/
theorem formFaults_fields (hasLeader : Bool) (t : Table) (f : t.Form) :
    (t.formFaults hasLeader f).map FieldFault.field =
      t.broken hasLeader (t.formColumns hasLeader f) := by
  cases t with
  | events => exact EventForm.faults_fields f
  | teams => exact TeamForm.faults_fields f hasLeader
  | groups => exact GroupForm.faults_fields f
  | announcements => exact AnnouncementForm.faults_fields f
  | believersClasses => exact BelieversClassForm.faults_fields f

/-- No column is named twice, since no two rules are about one column. -/
theorem broken_nodup (t : Table) (hasLeader : Bool) (row : List (String × Json)) :
    (t.broken hasLeader row).Nodup := by
  have inside : (t.broken hasLeader row).Sublist ((t.rules hasLeader).map Prod.fst) := by
    unfold broken
    induction t.rules hasLeader with
    | nil => exact .slnil
    | cons rule rules ih =>
      obtain ⟨column, rule⟩ := rule
      rw [List.flatMap_cons, List.map_cons]
      dsimp only
      by_cases met : (Json.find? column row).any rule.meets = true
      · rw [if_pos met]
        exact ih.cons column
      · rw [if_neg met]
        exact ih.cons_cons column
  refine inside.nodup ?_
  cases t <;> cases hasLeader <;> decide

end Backend.Table

namespace Service

open Backend (Access Table)
open Web (Outgoing Request Response)

/-- Handles requests one after another, each with what the one before it left behind. -/
def serve (site : Site) (m : Memory) : List Request → Dialogue (List Response × Memory)
  | [] => .done ([], m)
  | r :: rest =>
    (handle site m r).bind fun (response, m) =>
      (serve site m rest).bind fun (responses, m) => .done (response :: responses, m)

/-- If a request writes to the tables, it writes a row that its table accepts. -/
def WritesAccepted (site : Site) (q : Outgoing) : Prop :=
  ∀ a, site.store = some a → AtTables a q → q.method = .post ∨ q.method = .patch →
    ∃ t : Table, ∃ row pairs, q.body = some (.obj row) ∧ t.Accepts row ∧
      q.url = (a.url.extended ((Backend.Client.tablePath t.name).map String.toList)).withPairs pairs

theorem Permitted.writesAccepted {site : Site} {r : Request} {past : History} {q : Outgoing}
    (permitted : Permitted site r past q) : WritesAccepted site q := by
  obtain ⟨e, id, -, sends⟩ := permitted
  intro a store tables write
  cases sends with
  | channel _ => rcases write with write | write <;> cases write
  | @store _ errand known due =>
    rw [store] at known
    cases known
    cases due with
    | visit | read | remove => rcases write with write | write <;> cases write
    | @account _ _ what _ area _ =>
      have account : AtAccounts a (a.outgoing errand) := by
        refine ⟨what, errand.pairs, ?_⟩
        rw [Access.outgoing, area]
      exact absurd tables account.not_atTables
    | password _ => rcases write with write | write <;> cases write
    | @add t row token accepts _ => exact ⟨t, row, [], rfl, accepts, rfl⟩
    | @change t name row token _ accepts _ =>
      exact ⟨t, row, Backend.Client.rowPairs name, rfl, accepts, rfl⟩

theorem serve_keeps (site : Site) (m : Memory) (rs : List Request) (past : History) :
    (serve site m rs).Keeps (fun _ q => WritesAccepted site q) (fun _ _ => True) past := by
  induction rs generalizing m past with
  | nil => exact trivial
  | cons r rs ih =>
    have handled : (handle site m r).Keeps (fun _ q => WritesAccepted site q) (fun _ _ => True) past :=
      (handle_keeps site m r past).weaken (fun _ _ permitted => permitted.writesAccepted)
        fun _ _ ended => ended
    refine handled.bind ?_
    intro later ⟨response, kept⟩ _
    exact (ih kept later).bind fun _ _ _ => trivial

def WritesRow (r : Request) (t : Table) : Prop :=
  (∃ id, Routed r (.create t) id) ∨
    ∃ id name, Routed r (.update t) id ∧ Request.pathText "id" id = .ok name

variable {site : Site} {m : Memory} {r : Request} {s : Surroundings} {before : Transcript}
  {a : Access} {token : String} {user : User}

theorem run_submit {d : Json.Decoder α} {faults : Memory → α → List FieldFault}
    {write : α → String → Act β} {form : α} (store : site.store = some a)
    (welcome : Welcomes a s before token user) (body : r.readBody d = .ok form)
    (broken : faults m form ≠ []) :
    (submit site r (some token) d faults write).run m s before =
      ((.error (.failed (.invalid (faults m form))), m), afterCheck a s before token) := by
  unfold submit
  refine (Act.run_bind_ok (Act.run_reading body)).trans ?_
  rw [store]
  refine (Act.run_bind_ok (run_gate welcome false)).trans ?_
  have known : Act.run get m s (afterCheck a s before token) =
      ((.ok m, m), afterCheck a s before token) := rfl
  refine (Act.run_bind_ok known).trans ?_
  apply Act.run_bind_error
  have refused : checked (faults m form) = .error (.invalid (faults m form)) := by
    unfold checked
    rw [if_neg]
    rwa [List.isEmpty_iff]
  rw [refused]
  rfl

private theorem run_create {t : Table} {form : t.Form} (store : site.store = some a)
    (bearer : r.bearer = .ok (some token)) (welcome : Welcomes a s before token user)
    (body : r.readBody t.formDecoder = .ok form) (broken : t.formFaults m.hasLeaderColumn form ≠ []) :
    (create site t r).run m s before =
      ((.error (.failed (.invalid (t.formFaults m.hasLeaderColumn form))), m),
        afterCheck a s before token) := by
  unfold create
  refine (Act.run_bind_ok (Act.run_reading bearer)).trans ?_
  cases t
  all_goals exact Act.run_bind_error (run_submit store welcome body broken)

private theorem run_update {t : Table} {form : t.Form} {id : List Char} {name : String}
    (store : site.store = some a) (bearer : r.bearer = .ok (some token))
    (welcome : Welcomes a s before token user) (named : Request.pathText "id" id = .ok name)
    (body : r.readBody t.formDecoder = .ok form) (broken : t.formFaults m.hasLeaderColumn form ≠ []) :
    (update site t id r).run m s before =
      ((.error (.failed (.invalid (t.formFaults m.hasLeaderColumn form))), m),
        afterCheck a s before token) := by
  unfold update
  refine (Act.run_bind_ok (Act.run_reading bearer)).trans ?_
  refine (Act.run_bind_ok (Act.run_reading named)).trans ?_
  cases t
  all_goals exact Act.run_bind_error (run_submit store welcome body broken)

/-- A row that is written is accepted by its table, in every order of requests. A form that would be
written as another row is answered with the columns that break their rules, each of them once, and
only the question whose token it is has been asked for it. -/
theorem rows_accepted :
    (∀ site m rs s before, ∃ new,
      ((serve site m rs).run s before).2.exchanges = before.exchanges ++ new ∧
        ∀ q reply, (q, reply) ∈ new → WritesAccepted site q) ∧
    ∀ (site : Site) (m : Memory) (r : Request) (s : Surroundings) (before : Transcript) (a : Access)
      (token : String) (user : User) (t : Table) (form : t.Form),
      site.store = some a → r.bearer = .ok (some token) → Welcomes a s before token user →
      WritesRow r t → r.readBody t.formDecoder = .ok form →
      t.broken m.hasLeaderColumn (t.formColumns m.hasLeaderColumn form) ≠ [] →
      ∃ response errors,
        (handle site m r).run s before = ((response, m), afterCheck a s before token) ∧
        response.status = 422 ∧ response.body = .json (.obj [("errors", .obj errors)]) ∧
        errors.map Prod.fst = t.broken m.hasLeaderColumn (t.formColumns m.hasLeaderColumn form) ∧
        (errors.map Prod.fst).Nodup := by
  constructor
  · intro site m rs s before
    obtain ⟨new, exchanges, -, sent⟩ := (serve_keeps site m rs []).run s before
    refine ⟨new, exchanges, ?_⟩
    intro q reply member
    obtain ⟨earlier, later, cut⟩ := List.append_of_mem member
    exact (sent earlier q reply later cut).1
  · intro site m r s before a token user t form store bearer welcome writes body broken
    rw [← t.formFaults_fields] at broken
    have faulty : t.formFaults m.hasLeaderColumn form ≠ [] := fun none => broken (by rw [none]; rfl)
    have answered : (handle site m r).run s before =
        (((Refusal.failed (.invalid (t.formFaults m.hasLeaderColumn form))).toResponse.withHeaders
          sharedHeaders, m), afterCheck a s before token) := by
      rcases writes with ⟨id, routed⟩ | ⟨id, name, routed, named⟩
      · rw [run_handle routed (run_create store bearer welcome body faulty), delivered_whole]
        · rfl
        · rw [routed.create.1]
          decide
      · rw [run_handle routed (run_update store bearer welcome named body faulty), delivered_whole]
        · rfl
        · rw [routed.update.1]
          decide
    have names : ((t.formFaults m.hasLeaderColumn form).map fun f => (f.field, Json.str f.message)).map
        Prod.fst = t.broken m.hasLeaderColumn (t.formColumns m.hasLeaderColumn form) := by
      rw [List.map_map]
      exact t.formFaults_fields m.hasLeaderColumn form
    refine ⟨_, _, answered, rfl, rfl, names, ?_⟩
    rw [names]
    exact t.broken_nodup _ _

theorem findRoute_groups : findRoute? "/admin/groups".toList =
    some (⟨[.fixed "admin".toList, .fixed "groups".toList],
      [("GET", .list .groups), ("POST", .create .groups)]⟩, []) := by
  decide

private def blankGroup : Request where
  method := "POST"
  path := "/admin/groups".toList
  query := none
  headers := [("authorization", "Bearer t"), ("content-type", "application/json")]
  body := Text.Utf8.encode "\x7b\"name\":\" \",\"meeting_time\":\"Monday\"\x7d".toList

def storeAccess : Access := ⟨Settings.defaultChannelUrl, "key"⟩

def quietSite : Site where
  settings := ⟨false, true, 8080, Settings.defaultChannelUrl, none, none, 600, none, none, none, none⟩
  store := some storeAccess
  feed := ⟨Settings.defaultChannelUrl, none⟩

private def knownUser : Surroundings where
  reply _ _ := .answered 200 (some (Text.Utf8.encode "\x7b\"id\":\"u\"\x7d".toList))
  clock _ := ⟨0, 0, by decide, by decide⟩
  draw _ := ⟨[0, 0, 0, 0, 0, 0], rfl⟩

private theorem knownUser_welcomes : ∃ user, Welcomes storeAccess knownUser .empty "t" user := by
  have read : ((Json.read User.decoder (Text.Utf8.symbols
      (Text.Utf8.encode "\x7b\"id\":\"u\"\x7d".toList))).toOption.map fun user =>
        ParishSite.mustChangePassword user.metadata) = some false := by decide +kernel
  obtain ⟨user, decoded, settled⟩ := Option.map_eq_some_iff.mp read
  exact ⟨user, by decide, ⟨200, _, rfl, rfl, of_toOption decoded⟩, settled⟩

theorem blank_group_refused :
    ∃ response errors,
      (handle quietSite ⟨true, Feed.Cache.new 0 none⟩ blankGroup).run knownUser .empty =
        ((response, ⟨true, Feed.Cache.new 0 none⟩), afterCheck storeAccess knownUser .empty "t") ∧
      response.status = 422 ∧ response.body = .json (.obj [("errors", .obj errors)]) ∧
      errors.map Prod.fst = ["name", "description"] := by
  have bearer : blankGroup.bearer = .ok (some "t") := of_toOption (by decide)
  have body : blankGroup.readBody GroupForm.decoder = .ok ⟨" ", "Monday", ""⟩ :=
    of_toOption (by decide +kernel)
  have broken : Table.groups.broken true (GroupForm.columns ⟨" ", "Monday", ""⟩) =
      ["name", "description"] := by decide
  have routed : Routed blankGroup (.create .groups) [] :=
    ⟨by decide, _, findRoute_groups, by decide⟩
  obtain ⟨user, welcome⟩ := knownUser_welcomes
  obtain ⟨response, errors, ran, status, answer, names, -⟩ := rows_accepted.2 quietSite
    ⟨true, Feed.Cache.new 0 none⟩ blankGroup knownUser .empty storeAccess "t" user .groups
    ⟨" ", "Monday", ""⟩ rfl bearer welcome (.inl ⟨[], routed⟩) body
    (broken.trans_ne (List.cons_ne_nil _ _))
  exact ⟨response, errors, ran, status, answer, names.trans broken⟩

end Service
end ParishSite
