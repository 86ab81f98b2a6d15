import ParishSite.Backend.Client
import ParishSite.Proofs.RecordMembers
import ParishSite.Web.Response

/-! What a refusal of the store says, and what the client is told for it. The tables and the accounts of
the store write their refusals differently; whatever is there, the message has some words, and three
statuses are told and no other. -/

namespace ParishSite

open Web (Outgoing Reply Request Response)

theorem Web.refusalText_filled (status : Nat) : Web.refusalText status ≠ "" := by
  unfold Web.refusalText Web.statusText?
  split
  all_goals decide

namespace Backend

def FirstFilled (texts : List (Option String)) (text : String) : Prop :=
  ∃ before after, texts = before ++ some text :: after ∧ text ≠ "" ∧
    ∀ other ∈ before, other = none ∨ other = some ""

theorem FirstFilled.skip {texts : List (Option String)} {text : String}
    (first : FirstFilled (some "" :: texts) text) : FirstFilled texts text := by
  obtain ⟨_ | ⟨head, before⟩, after, cut, filled, empty⟩ := first
  · cases cut
    exact absurd rfl filled
  · cases cut
    exact ⟨before, after, rfl, filled, fun other member => empty other (List.mem_cons_of_mem _ member)⟩

theorem FirstFilled.head {texts : List (Option String)} {here text : String} (filled : here ≠ "")
    (first : FirstFilled (some here :: texts) text) : text = here := by
  obtain ⟨_ | ⟨head, before⟩, after, cut, -, empty⟩ := first
  · cases cut
    rfl
  · cases cut
    simpa [filled] using empty _ List.mem_cons_self

theorem firstFilled_of_find? {texts : List (Option String)} {text : String}
    (found : (texts.filterMap fun s => s).find? (· ≠ "") = some text) : FirstFilled texts text := by
  induction texts with
  | nil => cases found
  | cons head texts ih =>
    have skip (empty : head = none ∨ head = some "")
        (rest : (texts.filterMap fun s => s).find? (· ≠ "") = some text) :
        FirstFilled (head :: texts) text := by
      obtain ⟨before, after, cut, filled, others⟩ := ih rest
      refine ⟨head :: before, after, by rw [cut]; rfl, filled, ?_⟩
      intro other member
      rcases List.mem_cons.mp member with rfl | member
      · exact empty
      · exact others other member
    cases head with
    | none => exact skip (.inl rfl) found
    | some first =>
      by_cases empty : first = ""
      · subst empty
        exact skip (.inr rfl) found
      · change (first :: texts.filterMap fun s => s).find? (· ≠ "") = some text at found
        rw [List.find?_cons_of_pos (by simpa using empty)] at found
        cases found
        exact ⟨[], texts, rfl, empty, fun _ member => absurd member List.not_mem_nil⟩

theorem empty_of_find? {texts : List (Option String)}
    (found : (texts.filterMap fun s => s).find? (· ≠ "") = none) :
    ∀ text ∈ texts, text = none ∨ text = some "" := by
  intro text member
  cases text with
  | none => exact .inl rfl
  | some text =>
    have kept : text ∈ texts.filterMap fun s => s := List.mem_filterMap.mpr ⟨some text, member, rfl⟩
    have empty := List.find?_eq_none.mp found text kept
    exact .inr (congrArg some (by simpa using empty))

namespace Refusal

def texts (r : Refusal) : List (Option String) := [r.message, r.shortMessage, r.description, r.error]

/-- The words of a refusal: its first text that is not empty, or else the words for its status. -/
def Says (r : Refusal) (status : Nat) (message : String) : Prop :=
  FirstFilled r.texts message ∨
    (∀ text ∈ r.texts, text = none ∨ text = some "") ∧ message = Web.refusalText status

theorem faultMessage_says (r : Refusal) (status : Nat) : r.Says status (r.faultMessage status) := by
  unfold Says faultMessage
  change FirstFilled r.texts (((r.texts.filterMap fun s => s).find? (· ≠ "")).getD _) ∨
    _ ∧ ((r.texts.filterMap fun s => s).find? (· ≠ "")).getD _ = _
  cases found : (r.texts.filterMap fun s => s).find? (· ≠ "") with
  | none => exact .inr ⟨empty_of_find? found, rfl⟩
  | some text => exact .inl (firstFilled_of_find? found)

theorem Says.filled {r : Refusal} {status : Nat} {message : String} (told : r.Says status message) :
    message ≠ "" := by
  rcases told with ⟨_, _, -, filled, -⟩ | ⟨-, rfl⟩
  · exact filled
  · exact Web.refusalText_filled status

/-- The code of a refusal: a text as it stands, a number in its digits, and otherwise the other code. -/
inductive Codes (r : Refusal) : Option String → Prop
  | text {s} (code : r.code = some (.str s)) : Codes r (some s)
  | int {n} (code : r.code = some (.int n)) : Codes r (some (toString n))
  | float {x} (code : r.code = some (.float x)) : Codes r (some (Number.Layout.data.render x))
  | other (noText : ∀ s, r.code ≠ some (.str s)) (noInt : ∀ n, r.code ≠ some (.int n))
      (noFloat : ∀ x, r.code ≠ some (.float x)) : Codes r r.errorCode

theorem faultCode?_codes (r : Refusal) : r.Codes r.faultCode? := by
  unfold faultCode?
  cases code : r.code with
  | none => exact .other (by simp [code]) (by simp [code]) (by simp [code])
  | some value =>
    cases value with
    | str s => exact .text code
    | int n => exact .int code
    | float x => exact .float code
    | _ => exact .other (by simp [code]) (by simp [code]) (by simp [code])

def namedTexts (r : Refusal) : List (String × Option String) :=
  [("error_code", r.errorCode), ("message", r.message), ("msg", r.shortMessage),
    ("error_description", r.description), ("error", r.error)]

/-- A refusal holds what the members of an object say: every text that is there, and as its code any value
but null. -/
structure SaidBy (ms : Json.Members) (r : Refusal) : Prop where
  texts : ∀ name text?, (name, text?) ∈ r.namedTexts → ∀ s,
    text? = some s ↔ ms.Has name (.str (.ok s))
  code : ∀ j, r.code = some j ↔
    ∃ value, ms.Has "code" value ∧ value ≠ .null ∧ value.whole (.direct 126) = .ok j

theorem string_ok_iff {reading : Json.Reading} {node : Json.Node} {s : String} :
    Json.Decoder.string reading node = .ok s ↔ node = .str (.ok s) := by
  unfold Json.Decoder.string
  split
  · simp
  · next other =>
    constructor
    · rintro ⟨⟩
    · rintro rfl
      exact absurd rfl (other s)

private theorem text_iff {fields : List Json.Field} {reading : Json.Reading} {ms : Json.Members}
    {found : List (String × Json.Node)} {name : String} {field : Json.Field} {text? : Option String}
    (taken : Json.Record.readMembers fields reading [] ms = .ok found)
    (known : Json.Record.fieldNamed fields name = some field)
    (holds : ∀ s, text? = some s ↔ ∃ node, Json.Record.lookup name found = some node ∧
      node ≠ .null ∧ Json.Decoder.string reading node = .ok s) (s : String) :
    text? = some s ↔ ms.Has name (.str (.ok s)) := by
  rw [holds, ← Json.Record.lookup_iff_has taken known]
  simp [string_ok_iff]

theorem saidBy_of_read {text : List Text.Utf8.Symbol} {ms : Json.Members} {refusal : Refusal}
    (tree : (Json.Node.ofText text).1 = .object ms)
    (read : Json.read decoder text = .ok refusal) : refusal.SaidBy ms := by
  have decoded := Json.of_read read
  rw [tree] at decoded
  obtain ⟨inner, opened, rest⟩ := ok_of_bind decoded
  obtain ⟨found, taken, all⟩ := ok_of_bind rest
  cases opened
  -- the fields are peeled off the record from the last to the first
  obtain ⟨_, error, five, rfl, isError⟩ := Json.Record.of_optional all
  obtain ⟨_, description, four, rfl, isDescription⟩ := Json.Record.of_optional five
  obtain ⟨_, short, three, rfl, isShort⟩ := Json.Record.of_optional four
  obtain ⟨_, message, two, rfl, isMessage⟩ := Json.Record.of_optional three
  obtain ⟨_, errorCode, one, rfl, isErrorCode⟩ := Json.Record.of_optional two
  obtain ⟨_, code, none, rfl, isCode⟩ := Json.Record.of_optional one
  cases none
  constructor
  · intro name text? member
    simp only [namedTexts, List.mem_cons, Prod.mk.injEq, List.not_mem_nil, or_false] at member
    rcases member with ⟨rfl, rfl⟩ | ⟨rfl, rfl⟩ | ⟨rfl, rfl⟩ | ⟨rfl, rfl⟩ | ⟨rfl, rfl⟩
    · exact text_iff taken rfl isErrorCode
    · exact text_iff taken rfl isMessage
    · exact text_iff taken rfl isShort
    · exact text_iff taken rfl isDescription
    · exact text_iff taken rfl isError
  · intro j
    rw [isCode]
    exact exists_congr fun value => and_congr (Json.Record.lookup_iff_has taken rfl value) Iff.rfl

end Refusal

/-- What is read of the body of a refusal: a code, if there is one, and a message. -/
inductive Words (body : Option (List UInt8)) (status : Nat) : Option String → String → Prop
  | read {bytes refusal code message} (whole : body = some bytes)
      (read : Json.read Refusal.decoder (Text.Utf8.symbols bytes) = .ok refusal)
      (codes : refusal.Codes code) (told : refusal.Says status message) : Words body status code message
  | unread (other : ∀ bytes refusal, body = some bytes →
      Json.read Refusal.decoder (Text.Utf8.symbols bytes) ≠ .ok refusal) :
      Words body status none (Web.refusalText status)

theorem words (body : Option (List UInt8)) (status : Nat) :
    Words body status (Refusal.ofBody body).faultCode? ((Refusal.ofBody body).faultMessage status) := by
  have unread (same : Refusal.ofBody body = .empty) (other : ∀ bytes refusal, body = some bytes →
      Json.read Refusal.decoder (Text.Utf8.symbols bytes) ≠ .ok refusal) :
      Words body status (Refusal.ofBody body).faultCode? ((Refusal.ofBody body).faultMessage status) := by
    rw [same]
    exact .unread other
  cases body with
  | none => exact unread rfl fun _ _ whole => nomatch whole
  | some bytes =>
    cases decoded : Json.read Refusal.decoder (Text.Utf8.symbols bytes) with
    | ok refusal =>
      have same : Refusal.ofBody (some bytes) = refusal := by
        rw [Refusal.ofBody, Option.bind_some, decoded]
        rfl
      rw [same]
      exact .read rfl decoded refusal.faultCode?_codes (refusal.faultMessage_says status)
    | error misfit =>
      refine unread ?_ fun other refusal whole => ?_
      · rw [Refusal.ofBody, Option.bind_some, decoded]
        rfl
      · rw [← Option.some.inj whole, decoded]
        exact fun same => nomatch same

theorem Words.filled {body : Option (List UInt8)} {status : Nat} {code : Option String}
    {message : String} (words : Words body status code message) : message ≠ "" := by
  cases words with
  | read _ _ _ told => exact told.filled
  | unread _ => exact Web.refusalText_filled status

theorem mistyped_unread {text : List Text.Utf8.Symbol} {ms : Json.Members} {name : String}
    {value : Json.Node} (tree : (Json.Node.ofText text).1 = .object ms)
    (member : name ∈ ["error_code", "message", "msg", "error_description", "error"])
    (has : ms.Has name value) (notNull : value ≠ .null) (noText : ∀ s, value ≠ .str (.ok s))
    (refusal : Refusal) : Json.read Refusal.decoder text ≠ .ok refusal := by
  intro read
  have decoded := Json.of_read read
  rw [tree] at decoded
  have unfit inner : (fun _ => ()) <$> Json.Decoder.optional .string inner value ≠ .ok () := by
    intro checked
    cases value with
    | null => exact notNull rfl
    | str text =>
      cases text with
      | ok s => exact noText s rfl
      | error fault => cases checked
    | _ => cases checked
  simp only [List.mem_cons, List.not_mem_nil, or_false] at member
  rcases member with rfl | rfl | rfl | rfl | rfl
  all_goals exact Json.Record.decoder_rejects has rfl unfit .start refusal decoded

/-- The values that were sent are what was refused: the code has five bytes and is of class 22 or 23. -/
def Rejects (code : Option String) : Prop :=
  ∃ text, code = some text ∧ text.utf8ByteSize = 5 ∧
    ("22".toList <+: text.toList ∨ "23".toList <+: text.toList)

inductive ToldAs (status : Nat) (code : Option String) : Nat → Prop
  | values (rejects : Rejects code) : ToldAs status code 400
  | rows (other : ¬ Rejects code) (same : status = 403) : ToldAs status code 403
  | store (other : ¬ Rejects code) (apart : status ≠ 403) : ToldAs status code 502

/-- No refusal is told as an answer, nor as one about the session, the row or the form of who asks. -/
theorem ToldAs.apart {status told : Nat} {code : Option String} (as : ToldAs status code told) :
    Web.isSuccess told = false ∧ told ∉ [401, 404, 422] := by
  cases as with
  | values => decide
  | rows => decide
  | store => decide

theorem isInvalidInput_iff {status : Nat} {code : Option String} {message : String} :
    (Fault.refused status code message).isInvalidInput = true ↔ Rejects code := by
  cases code with
  | none => simp [Fault.isInvalidInput, Rejects]
  | some text => simp [Fault.isInvalidInput, Rejects, List.isPrefixOf_iff_prefix]

theorem toFailure_told (status : Nat) (code : Option String) (message : String) :
    ∃ told, ToldAs status code told ∧
      Response.ofFailure (Fault.refused status code message).toFailure = .text told message := by
  unfold Fault.toFailure
  by_cases rejects : Rejects code
  · rw [if_pos (isInvalidInput_iff.mpr rejects)]
    exact ⟨400, .values rejects, rfl⟩
  · rw [if_neg (mt isInvalidInput_iff.mp rejects)]
    by_cases same : status = 403
    · exact ⟨403, .rows rejects same, by dsimp only; rw [if_pos same]; rfl⟩
    · exact ⟨502, .store rejects same, by dsimp only; rw [if_neg same]; rfl⟩

end Backend
end ParishSite
