import ParishSite.Proofs.LeaderColumn

/-! Refusals of the values that were submitted. Such a refusal is told to the client in the words of
the store, and nothing is taken from it about the column of leaders, as long as its message does not
mention the column. A message that does is taken for word of a missing column. -/

namespace ParishSite.Backend

open Web (Reply)

namespace Fault

def mentions (column : String) (fault : Fault) : Bool :=
  containsText (Text.lower column.toList) (Text.lower fault.message.toList)

/-- Of a refusal of values only the message can speak of a missing column, never the code. -/
theorem isMissingColumn_of_invalid {fault : Fault} (invalid : fault.isInvalidInput = true)
    (column : String) : fault.isMissingColumn column = fault.mentions column := by
  cases fault with
  | refused status code message =>
    have class42 : ("22".toList.isPrefixOf undefinedColumn.toList ||
        "23".toList.isPrefixOf undefinedColumn.toList) = false := by decide +kernel
    have other : code ≠ some undefinedColumn := by
      intro same
      simp only [same, isInvalidInput, class42, Bool.and_false] at invalid
      exact Bool.false_ne_true invalid
    have missing : (refused status code message).isMissingColumn column =
        (code == some undefinedColumn || (refused status code message).mentions column) := rfl
    rw [missing, beq_false_of_ne other, Bool.false_or]
  | _ => cases invalid

theorem toFailure_of_invalid {fault : Fault} (invalid : fault.isInvalidInput = true) :
    fault.toFailure = .badRequest fault.message := by
  unfold toFailure
  rw [if_pos invalid]

end Fault

def refusalFault (status : Nat) (body : Option (List UInt8)) : Fault :=
  (Refusal.ofBody body).toFault status

theorem Client.outcomeOf_refused (d : Json.Decoder α) {status : Nat}
    (refused : Web.isSuccess status = false) (body : Option (List UInt8)) :
    outcomeOf d (.answered status body) = .error (refusalFault status body) := by
  simp only [outcomeOf, refused]
  rfl

/-- What a call does about a refusal of a request that names the column of leaders. -/
structure Settled (fault : Fault) (flag : Bool) (later : List (Errand × Reply))
    (result : Except Fault α) (kept : Bool) : Prop where
  told : fault.isMissingColumn "leader" = false →
    later = [] ∧ kept = flag ∧ result = .error fault
  taken : fault.isMissingColumn "leader" = true → kept = false

theorem Settled.map {fault : Fault} {flag kept : Bool} {later : List (Errand × Reply)}
    {result : Except Fault α} (settled : Settled fault flag later result kept) (f : α → β) :
    Settled fault flag later (result.map f) kept where
  told other := by
    obtain ⟨ended, same, failed⟩ := settled.told other
    exact ⟨ended, same, by rw [failed]; rfl⟩
  taken := settled.taken

theorem Course.settled {e : Bool → Errand} {read : Reply → Except Fault α} {asks flag kept : Bool}
    {asked earlier later : List (Errand × Reply)} {result : Except Fault α} {named : Errand}
    {reply : Reply} {fault : Fault} (variants : Variants e)
    (course : Course e read asks flag asked result kept)
    (cut : asked = earlier ++ (named, reply) :: later) (names : named.names "leader" = true)
    (failed : read reply = .error fault) : Settled fault flag later result kept := by
  cases course with
  | unsent => simp at cut
  | answered ok =>
    obtain ⟨same, -⟩ := cut_singleton cut
    cases same
    rw [failed] at ok
    cases ok
  | failed error other =>
    obtain ⟨same, ended⟩ := cut_singleton cut
    cases same
    rw [failed] at error
    cases error
    rw [variants.names] at names
    subst names
    refine ⟨fun _ => ⟨ended, rfl, rfl⟩, fun missing => ?_⟩
    rw [missing] at other
    cases other
  | cut _ error missing =>
    obtain ⟨same, -⟩ := cut_singleton cut
    cases same
    rw [failed] at error
    cases error
    exact ⟨fun other => absurd (missing.symm.trans other) (by decide), fun _ => rfl⟩
  | retried _ error missing =>
    rcases cut_cons cut with ⟨-, same, -⟩ | ⟨before, -, rest⟩
    · cases same
      rw [failed] at error
      cases error
      exact ⟨fun other => absurd (missing.symm.trans other) (by decide), fun _ => rfl⟩
    · -- the second request does not name the column
      obtain ⟨same, -⟩ := cut_singleton rest
      cases same
      rw [variants.names] at names
      cases names

theorem RosterStep.Goes.settled {step : RosterStep} {flag kept : Bool}
    {asked earlier later : List (Errand × Reply)} {outcome : Except Fault step.Answer} {named : Errand}
    {status : Nat} {body : Option (List UInt8)} (goes : step.Goes flag asked outcome kept)
    (cut : asked = earlier ++ (named, .answered status body) :: later)
    (names : named.names "leader" = true) (refused : Web.isSuccess status = false) :
    Settled (refusalFault status body) flag later outcome kept := by
  have failed := Client.outcomeOf_refused (.list TeamRow.decoder) refused body
  have changed : RosterStep.readChanged (.answered status body) =
      .error (refusalFault status body) := by
    rw [RosterStep.readChanged, failed]
    rfl
  have added : RosterStep.readAdded (.answered status body) = .error (refusalFault status body) := by
    rw [RosterStep.readAdded, failed]
    rfl
  cases goes with
  | @list token _ _ rows _ course =>
    exact (course.settled (RosterStep.listing_variants token) cut names failed).map _
  | @update id form token _ _ row _ course =>
    exact (course.settled (RosterStep.altering_variants id form token) cut names changed).map _
  | @unplaced form token _ _ fault place =>
    have silent := RosterStep.placing_names form token
    rcases place with rfl | ⟨reply, rfl⟩
    · simp at cut
    · obtain ⟨same, -⟩ := cut_singleton cut
      cases same
      rw [silent] at names
      cases names
  | @create form token _ place taken key asked row kept _ course =>
    have silent := RosterStep.placing_names form token
    rcases cut_cons cut with ⟨-, same, -⟩ | ⟨before, -, rest⟩
    · cases same
      rw [silent] at names
      cases names
    · exact (course.settled (RosterStep.founding_variants form key _ token) rest names added).map _

/-- Whatever the table was taken for, a call about teams tells the client of a refusal of values and
learns nothing from it, except where the message mentions the column of leaders. -/
theorem rejected_values_told (a : Access) (s : Surroundings) (t : Transcript) (flag : Bool)
    (step : RosterStep) :
    ∃ asked, (runAct s flag t (step.call (some a))).2.exchanges =
        t.exchanges ++ asked.map a.exchange ∧
      ∀ earlier named status body later,
        asked = earlier ++ (named, .answered status body) :: later →
        named.names "leader" = true → Web.isSuccess status = false →
        (refusalFault status body).isInvalidInput = true →
        ((refusalFault status body).mentions "leader" = false →
          later = [] ∧ (runAct s flag t (step.call (some a))).1 =
            (.error (refusalFault status body), flag) ∧
          (refusalFault status body).toFailure = .badRequest (refusalFault status body).message) ∧
        ((refusalFault status body).mentions "leader" = true →
          (runAct s flag t (step.call (some a))).1.2 = false) := by
  obtain ⟨asked, exchanges, goes⟩ := step.goes a s t flag
  refine ⟨asked, exchanges, ?_⟩
  intro earlier named status body later cut names refused invalid
  have settled := goes.settled cut names refused
  have missing := Fault.isMissingColumn_of_invalid invalid "leader"
  constructor
  · intro unmentioned
    obtain ⟨ended, kept, failed⟩ := settled.told (missing.trans unmentioned)
    exact ⟨ended, Prod.ext failed kept, Fault.toFailure_of_invalid invalid⟩
  · intro mentioned
    exact settled.taken (missing.trans mentioned)

private def nullLeader : List UInt8 :=
  Text.Utf8.encode ("\x7b\"code\":\"23502\",\"message\":\"null value in column \\\"leader\\\" " ++
    "of relation \\\"serving_teams\\\" violates not-null constraint\"\x7d").toList

private def needsLeader : Surroundings := .unmoved (.answered 400 (some nullLeader))

/-- The leader is refused for its value, and from then on the table is taken to have no column for
it: the team is sent again without one. -/
theorem null_leader_taken_for_missing_column :
    let refusal := refusalFault 400 (some nullLeader)
    let ended := runAct needsLeader true .empty
      (RosterStep.call (some ⟨Settings.defaultChannelUrl, "key"⟩)
        (.update "7" ⟨"Sunday", "Sound", "", "Desk and stage"⟩ "token"))
    refusal.isInvalidInput = true ∧ refusal.isMissingColumn "leader" = true ∧ ended.1.2 = false ∧
      ended.2.requests.map (fun q => Errand.names "leader" ⟨q.method, [], [], none, true, q.body⟩) =
        [true, false] := by
  decide +kernel

end ParishSite.Backend
