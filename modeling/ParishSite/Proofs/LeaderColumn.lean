import ParishSite.Proofs.RosterCourse

/-! The column of leaders over any run of calls about teams. It is taken for missing only once a
request that names it was refused for want of it, and for present again only once a read of it has
succeeded. In between no write names it, and a request that is made once more differs from the first
in nothing but the column. -/

namespace ParishSite.Backend

open Web (Reply)

def columnNames (text : String) : List String := (text.toList.splitOn ',').map String.ofList

namespace Errand

def names (column : String) (e : Errand) : Bool :=
  (e.pairs.any fun (name, value) => name = "select" && (columnNames value).contains column) ||
    match e.body with
    | some (.obj row) => (row.map Prod.fst).contains column
    | _ => false

/-- The same request for all the other columns. -/
def without (column : String) (e : Errand) : Errand where
  method := e.method
  path := e.path
  pairs := e.pairs.map fun (name, value) =>
    if name = "select" then (name, ",".intercalate ((columnNames value).filter (· ≠ column)))
    else (name, value)
  token := e.token
  wantsRows := e.wantsRows
  body := e.body.map fun
    | .obj row => .obj (row.filter fun (name, _) => name ≠ column)
    | other => other

end Errand

/-- Two forms of a request, one with the column of leaders and one without it. -/
structure Variants (e : Bool → Errand) : Prop where
  names : ∀ withLeader, (e withLeader).names "leader" = withLeader
  without : (e true).without "leader" = e false

namespace RosterStep

theorem listing_variants (token : String) : Variants (listing token) where
  names withLeader := by
    -- who asks does not matter to what is asked
    change (Errand.reading (Roster.query withLeader) none).names "leader" = withLeader
    cases withLeader <;> decide
  without := by
    have pairs : ((Errand.reading (Roster.query true) none).without "leader").pairs =
        (Roster.query false).params := by decide
    exact congrArg (fun pairs => { listing token false with pairs }) pairs

theorem altering_variants (id : String) (form : TeamForm) (token : String) :
    Variants (altering id form token) where
  names withLeader := by cases withLeader <;> rfl
  without := rfl

theorem founding_variants (form : TeamForm) (key : String) (sort : Int) (token : String) :
    Variants (founding form key sort token) where
  names withLeader := by cases withLeader <;> rfl
  without := rfl

theorem placing_names (form : TeamForm) (token : String) :
    (placing form token).names "leader" = false := by
  have sort : "leader" ∉ columnNames "team_sort" := by decide
  have pairs : (placing form token).pairs =
      [("select", "team_sort"), ("group_name", "eq." ++ Text.trimmed form.groupName)] := rfl
  have body : (placing form token).body = none := rfl
  simp [Errand.names, pairs, body, sort]

end RosterStep

/-- A request that names the column of leaders was refused for want of it. -/
def Refused (asked : List (Errand × Reply)) : Prop :=
  ∃ pair ∈ asked, pair.1.names "leader" = true ∧ lacksColumn "leader" pair.2 = true

def Shown (asked : List (Errand × Reply)) : Prop :=
  ∃ pair ∈ asked, pair.1.method = .get ∧ pair.1.names "leader" = true ∧
    ∃ rows, Client.outcomeOf (.list TeamRow.decoder) pair.2 = .ok rows

/-- No request follows one that names the column of leaders, but for the same request without the
column after a refusal for want of it. -/
def Retries (asked : List (Errand × Reply)) : Prop :=
  ∀ earlier e reply later, asked = earlier ++ (e, reply) :: later → e.names "leader" = true →
    later = [] ∨ lacksColumn "leader" reply = true ∧ ∃ again, later = [(e.without "leader", again)]

variable {asked : List (Errand × Reply)} {e : Bool → Errand} {read : Reply → Except Fault α}
  {flag kept : Bool} {result : Except Fault α}

theorem refused_cons {first : Errand} {reply : Reply} (silent : first.names "leader" = false) :
    Refused ((first, reply) :: asked) ↔ Refused asked := by
  simp [Refused, silent]

theorem retries_cons {first : Errand} {reply : Reply} (silent : first.names "leader" = false)
    (retries : Retries asked) : Retries ((first, reply) :: asked) := by
  intro earlier e answer later cut named
  rcases cut_cons cut with ⟨-, same, -⟩ | ⟨before, -, rest⟩
  · cases same
    rw [silent] at named
    cases named
  · exact retries before e answer later rest named

theorem retries_singleton (pair : Errand × Reply) : Retries [pair] :=
  fun _ _ _ _ cut _ => .inl (cut_singleton cut).2

namespace Course

theorem retries {asks : Bool} (variants : Variants e) (honest : Honest "leader" read)
    (course : Course e read asks flag asked result kept) : Retries asked := by
  cases course with
  | unsent => exact fun earlier _ _ _ cut => absurd cut.symm (by simp)
  | answered ok => exact retries_singleton _
  | failed error other => exact retries_singleton _
  | cut _ error missing => exact retries_singleton _
  | @retried reply again fault _ error missing =>
    intro earlier e' reply' later cut named
    rcases cut_cons cut with ⟨-, same, ended⟩ | ⟨before, -, rest⟩
    · cases same
      refine .inr ⟨?_, again, ?_⟩
      · rw [← honest.failed error]
        exact missing
      · rw [ended, variants.without]
    · exact retries_singleton _ before e' reply' later rest named

/-- A table that was taken to have the column is found to lack it exactly when a request is refused
for that. -/
theorem refused_iff (variants : Variants e) (honest : Honest "leader" read)
    (course : Course e read true true asked result kept) : kept = false ↔ Refused asked := by
  cases course with
  | unsent => simp [Refused]
  | answered ok =>
    have answered := honest.answered ok
    simp [Refused, answered]
  | failed error other =>
    have failed := (honest.failed error).symm.trans other
    simp [Refused, failed]
  | cut _ error missing =>
    have failed := (honest.failed error).symm.trans missing
    simp [Refused, variants.names, failed]
  | retried _ error missing =>
    have failed := (honest.failed error).symm.trans missing
    simp [Refused, variants.names, failed]

theorem silent (variants : Variants e) (course : Course e read false false asked result kept) :
    kept = false ∧ ∀ pair ∈ asked, pair.1.names "leader" = false := by
  cases course with
  | unsent => exact ⟨rfl, by simp⟩
  | answered ok => exact ⟨rfl, by simp [variants.names]⟩
  | failed error other => exact ⟨rfl, by simp [variants.names]⟩
  | cut asks => cases asks
  | retried asks => cases asks

/-- What a call ends in was read from its last reply, and that reply was to a request with the column
exactly if the table is taken to have it afterwards. -/
theorem last {asks : Bool} {value : α} (lost : read .dropped = .error .unreachable)
    (course : Course e read asks flag asked result kept) (ok : result = .ok value) :
    ∃ earlier reply, asked = earlier ++ [(e kept, reply)] ∧ read reply = .ok value := by
  cases course with
  | unsent =>
    rw [lost] at ok
    cases ok
  | @answered reply _ answered => exact ⟨[], reply, rfl, answered.trans ok⟩
  | failed => cases ok
  | cut =>
    rw [lost] at ok
    cases ok
  | @retried reply again => exact ⟨[(e true, reply)], again, rfl, ok⟩

/-- A table that was taken to lack the column is found to have it exactly when a read with the column
succeeds. -/
theorem shown_iff {token : String} {rows : Except Fault (List TeamRow)}
    (course : Course (RosterStep.listing token) (Client.outcomeOf (.list TeamRow.decoder)) true false
      asked rows kept) : kept = true ↔ Shown asked := by
  have names := (RosterStep.listing_variants token).names
  cases course with
  | unsent => simp [Shown]
  | answered ok =>
    refine iff_of_true rfl ⟨_, List.mem_singleton_self _, rfl, names true, _, ok⟩
  | failed error other => simp [Shown, error]
  | cut _ error missing => simp [Shown, error]
  | retried _ error missing => simp [Shown, error, names]

end Course

/-- A call about teams as it was made: what the table was taken for before and after it, and what was
exchanged in it. -/
structure RosterEpisode where
  step : RosterStep
  before : Bool
  outcome : Except Fault step.Answer
  after : Bool
  exchanges : History

/-- Makes calls one after another. Each takes the table for what the one before it left behind. -/
def episodes (c : Client) (s : Surroundings) (flag : Bool) (t : Transcript) :
    List RosterStep → List RosterEpisode
  | [] => []
  | step :: rest =>
    let ended := runAct s flag t (step.call c)
    ⟨step, flag, ended.1.1, ended.1.2, ended.2.exchanges.drop t.exchanges.length⟩ ::
      episodes c s ended.1.2 ended.2 rest

namespace RosterEpisode

def list? : RosterEpisode → Option TeamList
  | ⟨.list _, _, .ok list, _, _⟩ => some list
  | _ => none

/-- What is taken of the column of leaders follows the requests of a call and the replies to them. -/
structure Lawful (ep : RosterEpisode) (asked : List (Errand × Reply)) : Prop where
  lost : ep.before = true → (ep.after = false ↔ Refused asked)
  found : ep.before = false →
    (ep.after = true ↔ (∃ token, ep.step = .list token) ∧ Shown asked)
  silent : ep.before = false → (∀ token, ep.step ≠ .list token) →
    ∀ pair ∈ asked, pair.1.names "leader" = false
  retries : Retries asked
  listed : ∀ list, ep.list? = some list → ∃ earlier e reply rows,
    asked = earlier ++ [(e, reply)] ∧ Client.outcomeOf (.list TeamRow.decoder) reply = .ok rows ∧
      list.teams = rows.map TeamItem.ofRow ∧ list.hasLeaderColumn = e.names "leader"

end RosterEpisode

private theorem readChanged_honest : Honest "leader" RosterStep.readChanged :=
  (honest_outcomeOf "leader" (.list TeamRow.decoder)).followed fun error => nomatch error

theorem readAdded_honest : Honest "leader" RosterStep.readAdded := by
  refine (honest_outcomeOf "leader" (.list TeamRow.decoder)).followed ?_
  intro rows fault error
  cases rows with
  | nil =>
    cases error
    decide +kernel
  | cons row rows => cases error

/-- A write is lawful: with the column it is given up for a refusal, and without it nothing changes. -/
private theorem write_lawful {step : RosterStep} {e : Bool → Errand} {read : Reply → Except Fault α}
    {flag kept : Bool} {asked : List (Errand × Reply)} {row : Except Fault α}
    {outcome : Except Fault step.Answer} {exchanges : History} (variants : Variants e)
    (honest : Honest "leader" read) (write : ∀ token, step ≠ .list token)
    (course : Course e read flag flag asked row kept) :
    (⟨step, flag, outcome, kept, exchanges⟩ : RosterEpisode).Lawful asked where
  lost := by
    rintro rfl
    exact course.refused_iff variants honest
  found := by
    rintro rfl
    have unchanged := (course.silent variants).1
    subst unchanged
    refine iff_of_false Bool.false_ne_true ?_
    rintro ⟨⟨token, same⟩, -⟩
    exact write token same
  silent := by
    rintro rfl -
    exact (course.silent variants).2
  retries := course.retries variants honest
  listed := by
    intro list shown
    cases step with
    | list token => exact absurd rfl (write token)
    | create => cases shown
    | update => cases shown

theorem RosterStep.Goes.lawful {step : RosterStep} {flag kept : Bool}
    {asked : List (Errand × Reply)} {outcome : Except Fault step.Answer} {exchanges : History}
    (goes : step.Goes flag asked outcome kept) :
    (⟨step, flag, outcome, kept, exchanges⟩ : RosterEpisode).Lawful asked := by
  cases goes with
  | @list token _ _ rows _ course =>
    have variants := RosterStep.listing_variants token
    have honest := honest_outcomeOf "leader" (.list TeamRow.decoder)
    refine ⟨?_, ?_, ?_, course.retries variants honest, ?_⟩
    · rintro rfl
      exact course.refused_iff variants honest
    · rintro rfl
      rw [course.shown_iff]
      exact ⟨fun shown => ⟨⟨token, rfl⟩, shown⟩, fun shown => shown.2⟩
    · exact fun _ write => absurd rfl (write token)
    · intro list shown
      cases rows with
      | error fault => cases shown
      | ok rows =>
        cases shown
        obtain ⟨earlier, reply, same, read⟩ := course.last rfl rfl
        exact ⟨earlier, _, reply, rows, same, read, rfl, (variants.names kept).symm⟩
  | @unplaced form token _ _ fault place =>
    have silent := RosterStep.placing_names form token
    have empty : Refused asked ↔ False := by
      rcases place with rfl | ⟨reply, rfl⟩ <;> simp [Refused, silent]
    refine ⟨?_, ?_, ?_, ?_, fun list shown => nomatch shown⟩
    · rintro rfl
      simp [empty]
    · rintro rfl
      simp
    · rintro - -
      rcases place with rfl | ⟨reply, rfl⟩ <;> simp [silent]
    · rcases place with rfl | ⟨reply, rfl⟩
      · exact fun earlier _ _ _ cut => absurd cut.symm (by simp)
      · exact retries_singleton _
  | @create form token _ place taken key asked row kept _ course =>
    have silent := RosterStep.placing_names form token
    have lawful : (⟨.create form token, flag, row.map TeamItem.ofRow, kept, exchanges⟩ :
        RosterEpisode).Lawful asked :=
      write_lawful (RosterStep.founding_variants form key _ token) readAdded_honest
        (fun _ same => nomatch same) course
    refine ⟨?_, ?_, ?_, retries_cons silent lawful.retries, fun list shown => nomatch shown⟩
    · intro had
      rw [refused_cons silent]
      exact lawful.lost had
    · intro lacked
      rw [lawful.found lacked]
      simp
    · intro lacked write
      exact List.forall_mem_cons.mpr ⟨silent, lawful.silent lacked write⟩
  | @update id form token _ _ row _ course =>
    exact write_lawful (RosterStep.altering_variants id form token) readChanged_honest
      (fun _ same => nomatch same) course

theorem RosterStep.call_none (s : Surroundings) (flag : Bool) (t : Transcript) (step : RosterStep) :
    runAct s flag t (step.call none) = ((.error .notConfigured, flag), t) := by
  cases step with
  | list token => rfl
  | create form token => rfl
  | update id form token => cases flag <;> rfl

/-- Whatever calls are made one after another and whatever the store replies, what is taken of the
column of leaders follows the replies. -/
theorem leader_column_follows_replies (s : Surroundings) (t : Transcript) (steps : List RosterStep) :
    (∀ ep ∈ episodes none s true t steps,
      ep.before = true ∧ ep.after = true ∧ ep.exchanges = []) ∧
    ∀ a, ∀ ep ∈ episodes (some a) s true t steps,
      ∃ asked, ep.exchanges = asked.map a.exchange ∧ ep.Lawful asked := by
  constructor
  · induction steps generalizing t with
    | nil => simp [episodes]
    | cons step steps ih =>
      simp only [episodes, RosterStep.call_none, List.drop_length]
      exact List.forall_mem_cons.mpr ⟨⟨rfl, rfl, rfl⟩, ih t⟩
  · intro a
    generalize true = flag
    induction steps generalizing flag t with
    | nil => simp [episodes]
    | cons step steps ih =>
      obtain ⟨asked, exchanges, goes⟩ := step.goes a s t flag
      refine List.forall_mem_cons.mpr ⟨⟨asked, ?_, goes.lawful⟩, ih _ _⟩
      rw [exchanges, List.drop_left]

end ParishSite.Backend
