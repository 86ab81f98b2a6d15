import ParishSite.Proofs.RowsWritten
import ParishSite.Proofs.SlugLetters

/-! Names that are safe wherever they are put. The file of an event has a name of small letters, digits
and hyphens, which the header of its answer holds in quotation marks just as it is; and a key is cut at
its last hyphen into the slug it was made of and what was drawn for it. -/

namespace ParishSite

namespace Slug

instance : DecidablePred IsPlain := fun _ => inferInstanceAs (Decidable (_ ∨ _))

/-- A slug begins with a letter or a digit. -/
theorem Stump.head {s : List Char} (stump : Stump s) : s.head? ≠ some '-' := by
  have front {words : List Char} (joined : Words words) (t : List Char) :
      (words ++ t).head? ≠ some '-' := by
    obtain ⟨c, rest, rfl, letter⟩ := joined.head
    exact fun same => letter_ne_hyphen letter (Option.some.inj same)
  cases stump with
  | nothing =>
    rintro ⟨⟩
  | whole words => simpa using front words []
  | hyphen words => exact front words ['-']

end Slug

theorem slug_plain (v : String) : ∀ c ∈ (slug v).toList, Slug.IsPlain c := by
  rw [slug_toList]
  exact (Slug.ofChars_stump v.toList).plain

theorem slug_head (v : String) : (slug v).toList.head? ≠ some '-' := by
  rw [slug_toList]
  exact (Slug.ofChars_stump v.toList).head

theorem slug_length (v : String) : (slug v).length ≤ 40 := by
  rw [← String.length_toList, slug_toList]
  exact List.length_take_le 40 _

/-- What a file may be called, before the ending of its name. -/
structure IsStem (stem : String) : Prop where
  filled : stem ≠ ""
  short : stem.length ≤ 46
  plain : ∀ c ∈ stem.toList, Slug.IsPlain c
  head : stem.toList.head? ≠ some '-'

theorem IsStem.of_slug {v : String} (shown : slug v ≠ "") : IsStem (slug v) where
  filled := shown
  short := Nat.le_trans (slug_length v) (by decide)
  plain := slug_plain v
  head := slug_head v

theorem IsStem.of_id (id : String) : IsStem ("event-" ++ slug id) where
  filled := by simp
  short := by
    have few := slug_length id
    have six : "event-".length = 6 := rfl
    rw [String.length_append]
    omega
  plain := by
    have event : ∀ c ∈ "event-".toList, Slug.IsPlain c := List.all_iff_forall_prop.mp (by decide)
    rw [String.toList_append]
    exact List.forall_mem_append.mpr ⟨event, slug_plain id⟩
  head := by
    rw [String.toList_append]
    exact fun same => absurd (Option.some.inj same) (by decide)

namespace Event

def fileStem (e : Event) : String :=
  if slug e.title = "" then "event-" ++ slug e.id else slug e.title

theorem fileName_eq (e : Event) : e.fileName = e.fileStem ++ ".ics" := by
  unfold fileName fileStem
  split <;> rfl

theorem fileStem_isStem (e : Event) : IsStem e.fileStem := by
  unfold fileStem
  split
  · exact .of_id e.id
  next shown => exact .of_slug shown

theorem fileName_plain (e : Event) : ∀ c ∈ e.fileName.toList, Slug.IsPlain c ∨ c = '.' := by
  have ending : ∀ c ∈ ".ics".toList, Slug.IsPlain c ∨ c = '.' := List.all_iff_forall_prop.mp (by decide)
  rw [fileName_eq, String.toList_append]
  exact List.forall_mem_append.mpr ⟨fun c member => .inl (e.fileStem_isStem.plain c member), ending⟩

end Event

namespace Web

/-- A text that a header can hold: visible characters of ASCII, and spaces. -/
def IsHeaderText (value : String) : Prop := ∀ c ∈ value.toList, 32 ≤ c.toNat ∧ c.toNat ≤ 126

/-- Reads a quoted text behind its first quotation mark, and gives what follows its last one. The
character behind a backslash stands for itself. -/
def quotedText? (escaped : Bool) : List Char → Option (List Char × List Char)
  | [] => none
  | c :: rest =>
    if escaped then (quotedText? false rest).map fun (text, after) => (c :: text, after)
    else if c = '"' then some ([], rest)
    else if c = '\\' then quotedText? true rest
    else (quotedText? false rest).map fun (text, after) => (c :: text, after)

def attachmentMark : List Char := "attachment; filename=\"".toList

/-- The name of the file that a header offers, if the header says nothing else. -/
def attachmentName? (value : String) : Option String :=
  if attachmentMark.isPrefixOf value.toList then
    match quotedText? false (value.toList.drop attachmentMark.length) with
    | some (name, []) => some (String.ofList name)
    | _ => none
  else none

theorem quotedText?_plain {s : List Char} (plain : ∀ c ∈ s, c ≠ '"' ∧ c ≠ '\\') (rest : List Char) :
    quotedText? false (s ++ '"' :: rest) = some (s, rest) := by
  induction s with
  | nil => rfl
  | cons c s ih =>
    obtain ⟨⟨unquoted, unescaped⟩, plain⟩ := List.forall_mem_cons.mp plain
    rw [List.cons_append, quotedText?, if_neg Bool.false_ne_true, if_neg unquoted, if_neg unescaped, ih plain]
    rfl

theorem attachmentName?_plain {name : String} (plain : ∀ c ∈ name.toList, c ≠ '"' ∧ c ≠ '\\') :
    attachmentName? ("attachment; filename=\"" ++ name ++ "\"") = some name := by
  have whole : ("attachment; filename=\"" ++ name ++ "\"").toList =
      attachmentMark ++ (name.toList ++ ['"']) := by
    rw [String.toList_append, String.toList_append]
    exact List.append_assoc _ _ _
  have opened : attachmentMark.isPrefixOf (attachmentMark ++ (name.toList ++ ['"'])) = true :=
    List.isPrefixOf_iff_prefix.mpr (List.prefix_append _ _)
  rw [attachmentName?, whole, if_pos opened, List.drop_left, quotedText?_plain plain]
  exact congrArg some String.ofList_toList

def Response.values (answer : Response) (name : String) : List String :=
  (answer.headers.filter (·.1 = name)).map (·.2)

/-- An answer hands out a file under a name. -/
structure Offers (answer : Response) (name : String) : Prop where
  status : answer.status = 200
  header : ∃ value, answer.values "content-disposition" = [value] ∧ IsHeaderText value ∧
    attachmentName? value = some name

end Web

theorem Event.fileName_isHeaderText (e : Event) :
    Web.IsHeaderText ("attachment; filename=\"" ++ e.fileName ++ "\"") := by
  have opening : Web.IsHeaderText "attachment; filename=\"" := List.all_iff_forall_prop.mp (by decide)
  have closing : Web.IsHeaderText "\"" := List.all_iff_forall_prop.mp (by decide)
  intro c member
  rw [String.toList_append, String.toList_append, List.mem_append, List.mem_append] at member
  rcases member with (start | name) | ended
  · exact opening c start
  · rcases e.fileName_plain c name with plain | rfl
    · have range := plain.range
      omega
    · decide
  · exact closing c ended

theorem Event.fileName_unquoted (e : Event) : ∀ c ∈ e.fileName.toList, c ≠ '"' ∧ c ≠ '\\' := by
  intro c member
  have quote : ¬ (Slug.IsPlain '"' ∨ '"' = '.') := by decide
  have backslash : ¬ (Slug.IsPlain '\\' ∨ '\\' = '.') := by decide
  constructor
  · rintro rfl
    exact quote (e.fileName_plain _ member)
  · rintro rfl
    exact backslash (e.fileName_plain _ member)

namespace Service

open Web (Offers Request Response)

def Finds (site : Site) (s : Surroundings) (before : Transcript) (id : List Char) (e : Event) : Prop :=
  ∃ name, Request.pathText "id" id = .ok name ∧
    (runCall s before (site.store.event? name)).1 = .ok (some e)

theorem delivered_headers (r : Request) (result : Except Refusal Response) :
    (delivered r result).headers = (responseOf result).headers ++ sharedHeaders := by
  unfold delivered
  dsimp only
  split <;> rfl

theorem refusal_status (r : Request) (why : Refusal) : (delivered r (.error why)).status ≠ 200 := by
  rw [delivered_status]
  cases why with
  | unreadable why =>
    cases why with
    | badBody misfit =>
      change (if misfit.fault.isSyntax then 400 else 422) ≠ 200
      split <;> decide
    | badAuthorization | badPath | badQuery | notJson => exact Nat.ne_of_beq_eq_false rfl
  | failed why =>
    change (Response.ofFailure why).status ≠ 200
    rw [ofFailure_status]
    cases why <;> exact Nat.ne_of_beq_eq_false rfl

theorem refusal_values (r : Request) (why : Refusal) :
    (delivered r (.error why)).values "content-disposition" = [] := by
  unfold Response.values
  rw [delivered_headers]
  cases why with
  | unreadable why => rfl
  | failed why => cases why <;> rfl

theorem calendar_offers (r : Request) (e : Event) (file : List Char) :
    Offers (delivered r (.ok (.calendar e.fileName file))) e.fileName where
  status := delivered_status r _
  header := by
    refine ⟨"attachment; filename=\"" ++ e.fileName ++ "\"", ?_, e.fileName_isHeaderText,
      Web.attachmentName?_plain e.fileName_unquoted⟩
    unfold Response.values
    rw [delivered_headers]
    rfl

/-- An event is looked up in the store by the id, and what has no event there is refused. -/
theorem run_foundEvent (site : Site) (m : Memory) (s : Surroundings) (before : Transcript)
    (id : List Char) :
    (∃ e after, Finds site s before id e ∧
      (foundEvent site id).run m s before = ((.ok e, m), after)) ∨
    ∃ why after, (∀ e, ¬ Finds site s before id e) ∧
      (foundEvent site id).run m s before = ((.error why, m), after) := by
  unfold foundEvent
  cases named : Request.pathText "id" id with
  | error why =>
    refine .inr ⟨.unreadable why, before, ?_, Act.run_bind_error (Act.run_reading_error rfl)⟩
    rintro e ⟨name, same, -⟩
    cases named.symm.trans same
  | ok name =>
    -- The id has one text, so that all that can be found is found under it.
    have told {e : Event} (found : Finds site s before id e) :
        (runCall s before (site.store.event? name)).1 = .ok (some e) := by
      obtain ⟨other, same, told⟩ := found
      rwa [Except.ok.inj (named.symm.trans same)]
    have read : (Act.reading (.ok name)).run m s before = ((.ok name, m), before) :=
      Act.run_reading rfl
    have asked : (Act.store (site.store.event? name)).run m s before = _ := Act.run_store _
    cases result : (runCall s before (site.store.event? name)).1 with
    | error fault =>
      rw [result] at asked
      refine .inr ⟨.failed fault.toFailure, _, ?_,
        (Act.run_bind_ok read).trans (Act.run_bind_error asked)⟩
      intro e found
      cases result.symm.trans (told found)
    | ok answer =>
      rw [result] at asked
      cases answer with
      | some e =>
        exact .inl ⟨e, _, ⟨name, named, result⟩,
          (Act.run_bind_ok read).trans (Act.run_bind_ok asked)⟩
      | none =>
        refine .inr ⟨.failed (.notFound "Event not found"), _, ?_,
          (Act.run_bind_ok read).trans (Act.run_bind_ok asked)⟩
        intro e found
        cases result.symm.trans (told found)

/-- An event that is found is handed out under its name, and any other answer hands out nothing. -/
theorem eventFile_answer {site : Site} {m : Memory} {r : Request} {s : Surroundings}
    {before : Transcript} {id : List Char} (routed : Routed r .eventFile id) :
    (∃ e, Finds site s before id e ∧ Offers ((handle site m r).run s before).1.1 e.fileName) ∨
    ((∀ e, ¬ Finds site s before id e) ∧
      ((handle site m r).run s before).1.1.status ≠ 200 ∧
      ((handle site m r).run s before).1.1.values "content-disposition" = []) := by
  have acts : act site id r .eventFile = eventFile site id := rfl
  rw [handle_answer routed, acts, eventFile]
  rcases run_foundEvent site m s before id with ⟨e, after, found, ran⟩ | ⟨why, after, lost, ran⟩
  · refine .inl ⟨e, found, ?_⟩
    rw [Act.run_bind_ok ran]
    have timed : Act.now.run m s after = _ := Act.run_lift _
    rw [Act.run_bind_ok timed]
    exact calendar_offers r e _
  · refine .inr ⟨lost, ?_⟩
    rw [Act.run_bind_error ran]
    exact ⟨refusal_status r why, refusal_values r why⟩

end Service

/-- A text in front of the last place of a mark, and behind it. -/
def cutAtLast? (mark : Char) : List Char → Option (List Char × List Char)
  | [] => none
  | c :: rest =>
    match cutAtLast? mark rest with
    | some (front, back) => some (c :: front, back)
    | none => if c = mark then some ([], rest) else none

theorem cutAtLast?_eq_none {mark : Char} {s : List Char} (absent : mark ∉ s) :
    cutAtLast? mark s = none := by
  induction s with
  | nil => rfl
  | cons c rest ih =>
    rw [List.mem_cons, not_or] at absent
    rw [cutAtLast?, ih absent.2]
    exact if_neg (Ne.symm absent.1)

theorem cutAtLast?_append {mark : Char} {back : List Char} (absent : mark ∉ back)
    (front : List Char) : cutAtLast? mark (front ++ mark :: back) = some (front, back) := by
  induction front with
  | nil =>
    rw [List.nil_append, cutAtLast?, cutAtLast?_eq_none absent]
    exact if_pos rfl
  | cons c front ih => rw [List.cons_append, cutAtLast?, ih]

/-- What a key is made of besides the characters that are drawn. -/
def keyBase (label fallback : String) : String := if slug label = "" then fallback else slug label

theorem keyBase_plain (label : String) {fallback : String}
    (plain : ∀ c ∈ fallback.toList, Slug.IsPlain c) :
    ∀ c ∈ (keyBase label fallback).toList, Slug.IsPlain c := by
  unfold keyBase
  split
  · exact plain
  · exact slug_plain label

theorem keyBase_length (label : String) {fallback : String} (short : fallback.length ≤ 40) :
    (keyBase label fallback).length ≤ 40 := by
  unfold keyBase
  split
  · exact short
  · exact slug_length label

theorem keyFor_plain (label : String) {fallback : String}
    (plain : ∀ c ∈ fallback.toList, Slug.IsPlain c) (suffix : KeySuffix) :
    ∀ c ∈ (keyFor label fallback suffix).toList, Slug.IsPlain c := by
  rw [keyFor_toList]
  refine List.forall_mem_append.mpr ⟨keyBase_plain label plain, ?_⟩
  exact List.forall_mem_cons.mpr ⟨.inr rfl, fun c member => .inl (suffix.chars_letter c member)⟩

theorem keyFor_length (label : String) {fallback : String} (short : fallback.length ≤ 40)
    (suffix : KeySuffix) : (keyFor label fallback suffix).length ≤ 47 := by
  have base := keyBase_length label short
  rw [← String.length_toList] at base
  rw [← String.length_toList, keyFor_toList, List.length_append, List.length_cons, suffix.chars_length]
  exact Nat.add_le_add_right base 7

theorem cutAtLast?_keyFor (label fallback : String) (suffix : KeySuffix) :
    cutAtLast? '-' (keyFor label fallback suffix).toList =
      some ((keyBase label fallback).toList, suffix.chars) := by
  rw [keyFor_toList]
  apply cutAtLast?_append
  intro member
  exact Slug.letter_ne_hyphen (suffix.chars_letter '-' member) rfl

namespace Service

open Web (Offers Request)

/-- The file of every event has a safe name, made of the id exactly when lower-casing leaves no letter and
no digit in the title. The answer that hands it out says this name, intact and in quotation marks, in a
header that can be sent, and no other answer hands out a file. A key is made of safe characters, whatever
is drawn for it, and its last hyphen parts the slug, or what stands for it, from what was drawn. -/
theorem names_safe_to_embed :
    (∀ e : Event, ∃ stem, IsStem stem ∧ e.fileName = stem ++ ".ics" ∧
      (Text.HasAlphanum (Text.lower e.title.toList) → stem = slug e.title) ∧
      (¬ Text.HasAlphanum (Text.lower e.title.toList) → stem = "event-" ++ slug e.id)) ∧
    (∀ (site : Site) (m : Memory) (r : Request) (s : Surroundings) (before : Transcript)
      (id : List Char), Routed r .eventFile id →
      (∃ e, Finds site s before id e ∧ Offers ((handle site m r).run s before).1.1 e.fileName) ∨
      ((∀ e, ¬ Finds site s before id e) ∧
        ((handle site m r).run s before).1.1.status ≠ 200 ∧
        ((handle site m r).run s before).1.1.values "content-disposition" = [])) ∧
    ∀ (label : String) (suffix : KeySuffix), ∀ fallback ∈ ["team", "believers-class"],
      (∀ c ∈ (keyFor label fallback suffix).toList, Slug.IsPlain c) ∧
      (keyFor label fallback suffix).length ≤ 47 ∧
      cutAtLast? '-' (keyFor label fallback suffix).toList =
        some ((if slug label = "" then fallback else slug label).toList, suffix.chars) ∧
      suffix.chars.length = 6 ∧ ∀ c ∈ suffix.chars, Slug.isSlugChar c = true := by
  refine ⟨?files, ?answers, ?keys⟩
  case files =>
    intro e
    refine ⟨e.fileStem, e.fileStem_isStem, e.fileName_eq, ?_, ?_⟩
    · intro shown
      exact if_neg fun blank => (slug_eq_empty_iff e.title).mp blank shown
    · intro none
      exact if_pos ((slug_eq_empty_iff e.title).mpr none)
  case answers =>
    intro site m r s before id routed
    exact eventFile_answer routed
  case keys =>
    intro label suffix fallback used
    have safe : (∀ c ∈ fallback.toList, Slug.IsPlain c) ∧ fallback.length ≤ 40 := by
      rcases List.mem_pair.mp used with rfl | rfl
      · exact ⟨List.all_iff_forall_prop.mp (by decide), by decide⟩
      · exact ⟨List.all_iff_forall_prop.mp (by decide), by decide⟩
    exact ⟨keyFor_plain label safe.1 suffix, keyFor_length label safe.2 suffix,
      cutAtLast?_keyFor label fallback suffix, suffix.chars_length, suffix.chars_letter⟩

private def carols : Event where
  id := "evt-3"
  title := "Carols; \"Live\" at 7"
  description := none
  category := .worship
  location := none
  start := ⟨68400, 0, by decide, by decide⟩
  finish := ⟨72000, 0, by decide, by decide⟩
  imageUrl := none

private def carolsRequest : Request where
  method := "GET"
  path := "/events/evt-3/ics".toList
  query := none
  headers := []
  body := []

private def carolsStored : Surroundings :=
  .unmoved (.answered 200 (some (Text.Utf8.encode (Json.arr [carols.toJson]).render)))

theorem carols_file_offered :
    Finds quietSite carolsStored .empty "evt-3".toList carols ∧
    Offers ((handle quietSite ⟨true, Feed.Cache.new 0 none⟩ carolsRequest).run carolsStored .empty).1.1
      "carols-live-at-7.ics" ∧
    "team" ∈ ["team", "believers-class"] ∧
    ∀ suffix, cutAtLast? '-' (keyFor "§" "team" suffix).toList = some ("team".toList, suffix.chars) := by
  have routed : Routed carolsRequest .eventFile "evt-3".toList :=
    ⟨by decide, ⟨[.fixed "events".toList, .id, .fixed "ics".toList], [("GET", .eventFile)]⟩,
      by decide, by decide⟩
  have named : Request.pathText "id" "evt-3".toList = .ok "evt-3" := of_toOption (by decide +kernel)
  have told : (runCall carolsStored .empty (quietSite.store.event? "evt-3")).1 = .ok (some carols) :=
    of_toOption (by decide +kernel)
  obtain ⟨-, answers, keys⟩ := names_safe_to_embed
  have found : Finds quietSite carolsStored .empty "evt-3".toList carols := ⟨"evt-3", named, told⟩
  refine ⟨found, ?_, by decide, ?_⟩
  · rcases answers quietSite ⟨true, Feed.Cache.new 0 none⟩ carolsRequest carolsStored .empty _ routed
      with ⟨e, ⟨name, same, also⟩, offers⟩ | ⟨lost, -⟩
    · rw [Except.ok.inj (same.symm.trans named), told] at also
      have written : carols.fileName = "carols-live-at-7.ics" := by decide +kernel
      rw [← Option.some.inj (Except.ok.inj also), written] at offers
      exact offers
    · exact absurd found (lost carols)
  · intro suffix
    have blank : slug "§" = "" := by decide +kernel
    obtain ⟨-, -, cut, -⟩ := keys "§" suffix "team" (by decide)
    rwa [if_pos blank] at cut

end Service
end ParishSite
