import ParishSite.Proofs.ExchangedModels
import ParishSite.Proofs.RecordMembers

/-! The ids of rows. A whole number of 64 bits with a sign names the same row as the text of its decimal
digits, a text is taken as it stands, and nothing else is an id, whatever else the row holds and wherever
the id stands in it. -/

namespace ParishSite

namespace Json

open Text.Utf8 (ofChars)

def FitsSignedWord (n : Int) : Prop := -9223372036854775808 ≤ n ∧ n ≤ 9223372036854775807

theorem FitsSignedWord.fitsWord {n : Int} (fits : FitsSignedWord n) : FitsWord n :=
  ⟨fits.1, Int.lt_of_le_of_lt fits.2 (by decide)⟩

namespace Lexeme

/-- The whole number that the digits before a point and a power of ten stand for. -/
def integer (l : Lexeme) : Int :=
  let magnitude : Nat := l.whole.foldl (fun n d => n * 10 + d) 0
  if l.negative then -(magnitude : Int) else magnitude

theorem gather_overflows {ds : List Nat} {n : Nat} (small : n < limit)
    (large : limit ≤ ds.foldl (fun n d => n * 10 + d) n) : (gather n ds).2 ≠ 0 := by
  induction ds generalizing n with
  | nil => exact absurd small (Nat.not_lt.mpr large)
  | cons d ds ih =>
    rw [gather]
    split
    · next next => exact ih next large
    · exact Nat.succ_ne_zero ds.length

theorem float_ne_int {negative : Bool} {significand : Nat} {exponent n : Int} :
    (match Number.Binary64.ofParts? negative significand exponent with
      | some x => .ok (.float x)
      | none => .error .numberTooLarge : Except SyntaxFault Numeral) ≠ .ok (.int n) := by
  cases Number.Binary64.ofParts? negative significand exponent with
  | some x => exact fun same => nomatch same
  | none => exact fun same => nomatch same

/-- A number is read as an integer only if it was written as one, without a point and without a power of
ten. -/
theorem integer_of_value {l : Lexeme} {n : Int} (read : l.value = .ok (.int n)) :
    l.fraction = [] ∧ l.power = none ∧ l.integer = n := by
  unfold value at read
  cases taken : gather 0 l.whole with
  | mk whole dropped =>
    rw [taken] at read
    dsimp only at read
    split at read
    · next plain =>
      simp only [Bool.and_eq_true, beq_iff_eq, List.isEmpty_iff, Option.isNone_iff_eq_none] at plain
      obtain ⟨⟨kept, noFraction⟩, noPower⟩ := plain
      have small : l.whole.foldl (fun n d => n * 10 + d) 0 < limit := by
        apply Nat.lt_of_not_le
        intro large
        refine gather_overflows (by decide) large ?_
        rw [taken, kept]
      rw [gather_fits small] at taken
      cases taken
      refine ⟨noFraction, noPower, ?_⟩
      unfold integer
      cases negative : l.negative with
      | false =>
        rw [negative] at read
        cases read
        rfl
      | true =>
        rw [negative, Bool.not_true, if_neg Bool.false_ne_true] at read
        split at read
        · cases read
          rfl
        · exact (float_ne_int read).elim
    · split at read
      · exact (float_ne_int read).elim
      · split at read
        · split at read
          · cases read
          · cases read
        · exact (float_ne_int read).elim

end Lexeme

namespace Node

/-- A value that can be the id of a row: a text, or an integer of 64 bits with a sign. -/
def IsId : Node → Prop
  | .str (.ok _) => True
  | .number (.ok (.int n)) => FitsSignedWord n
  | _ => False

end Node

namespace Decoder

theorem rowId_number {n : Int} (fits : FitsSignedWord n) (reading : Reading) :
    rowId reading (.number (.ok (.int n))) = .ok (toString n) := if_pos fits

theorem rowId_unfit {value : Node} (unfit : ¬ value.IsId) (reading : Reading) (id : String) :
    rowId reading value ≠ .ok id := by
  intro read
  obtain ⟨whole, seen, last⟩ := ok_of_bind read
  cases value with
  | null | bool b =>
    cases seen
    cases last
  | str text =>
    cases text with
    | ok s => exact unfit trivial
    | error fault => cases seen
  | number found =>
    cases found with
    | error fault => cases seen
    | ok numeral =>
      cases numeral with
      | float x =>
        cases seen
        cases last
      | int n =>
        cases seen
        have outside : ¬ (-9223372036854775808 ≤ n ∧ n ≤ 9223372036854775807) := unfit
        change (if _ then _ else _) = _ at last
        rw [if_neg outside] at last
        cases last
  | list items =>
    obtain ⟨inner, -, seen⟩ := ok_of_bind seen
    obtain ⟨values, -, seen⟩ := ok_of_bind seen
    cases seen
    cases last
  | object ms =>
    obtain ⟨inner, -, seen⟩ := ok_of_bind seen
    obtain ⟨members, -, seen⟩ := ok_of_bind seen
    cases seen
    cases last
  | _ => cases seen

end Decoder

theorem memberTrees_withValue {name : String} {before after : List (String × Json)}
    (new : name ∉ keys before) (last : name ∉ keys after) (value other : Json) :
    (memberTrees (before ++ (name, value) :: after)).withValue name other.tree =
      memberTrees (before ++ (name, other) :: after) := by
  have away {members : List (String × Json)} (absent : name ∉ keys members) :
      (memberTrees members).withValue name other.tree = memberTrees members := by
    induction members with
    | nil => rfl
    | cons member members ih =>
      obtain ⟨differs, absent⟩ := not_or.mp (mt List.mem_cons.mpr absent)
      rw [memberTrees, Members.withValue, if_neg (Ne.symm differs), ih absent]
  induction before with
  | nil =>
    rw [List.nil_append, List.nil_append, memberTrees, memberTrees, Members.withValue, if_pos rfl,
      away last]
  | cons member before ih =>
    obtain ⟨differs, new⟩ := not_or.mp (mt List.mem_cons.mpr new)
    rw [List.cons_append, List.cons_append, memberTrees, memberTrees, Members.withValue,
      if_neg (Ne.symm differs), ih new]

def laterMembers : Json → List (String × Json)
  | .obj (_ :: rest) => rest
  | _ => []

theorem readString_alike {d : Decoder α} {j k : Json} (left : j.IsExact) (right : k.IsExact)
    (alike : d .start j.tree = d .start k.tree) : readString d j.toText = readString d k.toText := by
  unfold readString toText
  rw [String.toList_ofList, String.toList_ofList]
  unfold Json.read
  rw [ofText_render left, ofText_render right]
  dsimp only
  rw [alike]

end Json

/-- How the ids of a kind of rows are read and written, whatever the other members of a row are: `id` is
the id of a row and `named` the same row with another id. -/
structure RowIds (d : Json.Decoder ρ) (id : ρ → String) (named : String → ρ → ρ) (write : ρ → Json) :
    Prop where
  texts : ∀ reading (ms : Json.Members) s row,
    d reading (.object (ms.withValue "id" (.str (.ok s)))) = .ok row →
    id row = s ∧ ∀ s', d reading (.object (ms.withValue "id" (.str (.ok s')))) = .ok (named s' row)
  numbers : ∀ reading (ms : Json.Members) n, Json.FitsSignedWord n →
    d reading (.object (ms.withValue "id" (.number (.ok (.int n))))) =
      d reading (.object (ms.withValue "id" (.str (.ok (toString n)))))
  sent : ∀ before after n, Json.FitsSignedWord n → Json.MembersExact before → Json.MembersExact after →
    "id" ∉ Json.keys before → "id" ∉ Json.keys after →
    Json.readString d (Json.obj (before ++ ("id", .int n) :: after)).toText =
      Json.readString d (Json.obj (before ++ ("id", .str (toString n)) :: after)).toText
  written : ∀ row, ∃ columns, write row = .obj columns ∧ Json.find? "id" columns = some (.str (id row))
  rejected : ∀ reading (ms : Json.Members) value, ms.Has "id" value → ¬ value.IsId →
    ∀ row, d reading (.object ms) ≠ .ok row

/-- The JSON of a row, with any number in the place of its id, is read as the row whose id has the digits
of the number. -/
def TakesNumbers (d : Json.Decoder ρ) (id : ρ → String) (named : String → ρ → ρ) (write : ρ → Json)
    (row : ρ) : Prop :=
  ∃ rest, write row = .obj (("id", .str (id row)) :: rest) ∧
    ∀ n, Json.FitsSignedWord n →
      Json.readString d (Json.obj (("id", .int n) :: rest)).toText = .ok (named (toString n) row)

namespace RowIds

open Json (Node Record Decoder)

variable {r : Record ρ} {id : ρ → String} {named : String → ρ → ρ} {title : String}

/-- A record looks at the id in one place only, and the row that it builds differs in nothing else. -/
def NamesRow (r : Record ρ) (id : ρ → String) (named : String → ρ → ρ) : Prop :=
  ∀ x y s s', (∀ reading, Decoder.rowId reading x = .ok s) →
    (∀ reading, Decoder.rowId reading y = .ok s') →
    r.Relates "id" x y fun row row' => id row = s ∧ row' = named s' row

theorem NamesRow.number (names : NamesRow r id named) (own : ∀ row, named (id row) row = row)
    (reading : Json.Reading) (ms : Json.Members) (n : Int) (fits : Json.FitsSignedWord n) :
    r.decoder title reading (.object (ms.withValue "id" (.number (.ok (.int n))))) =
      r.decoder title reading (.object (ms.withValue "id" (.str (.ok (toString n))))) := by
  have alike := (names (.number (.ok (.int n))) (.str (.ok (toString n))) _ _
    (Decoder.rowId_number fits) fun _ => rfl).decoder rfl title reading ms
  refine alike.eq fun row row' related => ?_
  obtain ⟨same, renamed⟩ := related
  rw [renamed, ← same, own]

theorem of_record {write : ρ → Json} {field : Json.Field}
    (known : Record.fieldNamed r.fields "id" = some field)
    (check : ∀ reading value, field.check reading value = (fun _ => ()) <$> Decoder.rowId reading value)
    (names : NamesRow r id named) (own : ∀ row, named (id row) row = row)
    (written : ∀ row, ∃ columns, write row = .obj columns ∧
      Json.find? "id" columns = some (.str (id row))) : RowIds (r.decoder title) id named write where
  texts reading ms s row read := by
    have alike s' := (names (.str (.ok s)) (.str (.ok s')) s s' (fun _ => rfl) fun _ => rfl).decoder
      rfl title reading ms
    rw [read] at alike
    refine ⟨?_, fun s' => ?_⟩
    · obtain ⟨-, -, same, -⟩ := (alike s).of_ok
      exact same
    · obtain ⟨row', read', -, rfl⟩ := (alike s').of_ok
      exact read'
  numbers := names.number own
  sent before after n fits first last new away := by
    have number : Json.MembersExact (("id", .int n) :: after) := ⟨fits.fitsWord, last⟩
    have text : Json.MembersExact (("id", .str (toString n)) :: after) := ⟨trivial, last⟩
    refine Json.readString_alike (first.append number) (first.append text) ?_
    have alike : r.decoder title .start _ = _ :=
      names.number own .start (Json.memberTrees (before ++ ("id", .null) :: after)) n fits
    have left : Json.Members.withValue "id" (.number (.ok (.int n))) _ = _ :=
      Json.memberTrees_withValue new away .null (.int n)
    have right : Json.Members.withValue "id" (.str (.ok (toString n))) _ = _ :=
      Json.memberTrees_withValue new away .null (.str (toString n))
    rw [left, right] at alike
    exact alike
  written := written
  rejected reading ms value has unfit := by
    refine Record.decoder_rejects has known (fun inner checked => ?_) reading
    rw [check] at checked
    obtain ⟨id, read, -⟩ := ok_of_map checked
    exact Decoder.rowId_unfit unfit inner id read

theorem takesNumbers {d : Json.Decoder ρ} {write : ρ → Json} {row : ρ}
    (ids : RowIds d id named write) (own : named (id row) row = row)
    (leads : ∀ s, write (named s row) = .obj (("id", .str s) :: (write row).laterMembers))
    (once : "id" ∉ Json.keys (write row).laterMembers)
    (decodes : ∀ s, Json.Decodes 1 d (write (named s row)) (named s row)) :
    TakesNumbers d id named write row := by
  refine ⟨(write row).laterMembers, ?_, fun n fits => ?_⟩
  · have first := leads (id row)
    rwa [own] at first
  · have whole := decodes (toString n)
    have written := whole.readText (by decide)
    have exact := whole.exact
    rw [leads] at written exact
    exact (ids.sent [] _ n fits trivial exact.2 List.not_mem_nil once).trans written

end RowIds

theorem Event.rowIds : RowIds Event.decoder Event.id (fun s e => { e with id := s }) Event.toJson := by
  refine RowIds.of_record rfl (fun _ _ => rfl) (fun x y s s' left right => ?_) (fun _ => rfl) ?_
  · refine .other (.other (.other (.other (.other (.other (.other (.here (.of ?_) left right) ?_) ?_) ?_)
      ?_) ?_) ?_) ?_
    · exact fun _ _ _ _ _ _ _ => ⟨rfl, rfl⟩
    all_goals simp
  · exact fun e => ⟨e.members, rfl, rfl⟩

theorem TeamRow.rowIds :
    RowIds TeamRow.decoder TeamRow.id (fun s t => { t with id := s }) TeamRow.toJson := by
  refine RowIds.of_record rfl (fun _ _ => rfl) (fun x y s s' left right => ?_) (fun _ => rfl) ?_
  · refine .other (.other (.other (.other (.other (.other (.other (.other (.here (.of ?_) left right) ?_)
      ?_) ?_) ?_) ?_) ?_) ?_) ?_
    · exact fun _ _ _ _ _ _ _ _ => ⟨rfl, rfl⟩
    all_goals simp
  · exact fun t => ⟨_, rfl, rfl⟩

theorem Group.rowIds : RowIds Group.decoder Group.id (fun s g => { g with id := s }) Group.toJson := by
  refine RowIds.of_record rfl (fun _ _ => rfl) (fun x y s s' left right => ?_) (fun _ => rfl) ?_
  · refine .other (.other (.other (.here (.of ?_) left right) ?_) ?_) ?_
    · exact fun _ _ _ => ⟨rfl, rfl⟩
    all_goals simp
  · exact fun g => ⟨_, rfl, rfl⟩

theorem Announcement.rowIds : RowIds Announcement.decoder Announcement.id (fun s a => { a with id := s })
    Announcement.toJson := by
  refine RowIds.of_record rfl (fun _ _ => rfl) (fun x y s s' left right => ?_) (fun _ => rfl) ?_
  · refine .other (.other (.other (.here (.of ?_) left right) ?_) ?_) ?_
    · exact fun _ _ _ => ⟨rfl, rfl⟩
    all_goals simp
  · exact fun a => ⟨_, rfl, rfl⟩

theorem BelieversClassRow.rowIds : RowIds BelieversClassRow.decoder BelieversClassRow.id
    (fun s c => { c with id := s }) BelieversClassRow.toJson := by
  refine RowIds.of_record rfl (fun _ _ => rfl) (fun x y s s' left right => ?_) (fun _ => rfl) ?_
  · refine .other (.other (.other (.other (.here (.of ?_) left right) ?_) ?_) ?_) ?_
    · exact fun _ _ _ _ => ⟨rfl, rfl⟩
    all_goals simp
  · exact fun c => ⟨_, rfl, rfl⟩

theorem Event.takesNumbers (e : Event) :
    TakesNumbers Event.decoder Event.id (fun s e => { e with id := s }) Event.toJson e :=
  Event.rowIds.takesNumbers rfl (fun _ => rfl)
    (by simp [Json.laterMembers, toJson, members, Json.keys]) fun _ => decodes _

theorem TeamRow.takesNumbers {t : TeamRow} (sorts : t.HasInt32) :
    TakesNumbers TeamRow.decoder TeamRow.id (fun s t => { t with id := s }) TeamRow.toJson t :=
  TeamRow.rowIds.takesNumbers rfl (fun _ => rfl)
    (by simp [Json.laterMembers, toJson, Json.keys]) fun _ => decodes sorts

theorem Group.takesNumbers (g : Group) :
    TakesNumbers Group.decoder Group.id (fun s g => { g with id := s }) Group.toJson g :=
  Group.rowIds.takesNumbers rfl (fun _ => rfl)
    (by simp [Json.laterMembers, toJson, Json.keys]) fun _ => decodes _

theorem Announcement.takesNumbers (a : Announcement) :
    TakesNumbers Announcement.decoder Announcement.id (fun s a => { a with id := s })
      Announcement.toJson a :=
  Announcement.rowIds.takesNumbers rfl (fun _ => rfl)
    (by simp [Json.laterMembers, toJson, Json.keys]) fun _ => decodes _

theorem BelieversClassRow.takesNumbers (c : BelieversClassRow) :
    TakesNumbers BelieversClassRow.decoder BelieversClassRow.id (fun s c => { c with id := s })
      BelieversClassRow.toJson c :=
  BelieversClassRow.rowIds.takesNumbers rfl (fun _ => rfl)
    (by simp [Json.laterMembers, toJson, Json.keys]) fun _ => decodes _

theorem Json.unfit_number {l : Lexeme}
    (other : l.fraction ≠ [] ∨ l.power ≠ none ∨ ¬ FitsSignedWord l.integer) :
    ¬ (Node.number l.value).IsId := by
  cases read : l.value with
  | error fault => exact id
  | ok numeral =>
    cases numeral with
    | float x => exact id
    | int n =>
      obtain ⟨noFraction, noPower, same⟩ := Lexeme.integer_of_value read
      intro fits
      rcases other with fraction | power | outside
      · exact fraction noFraction
      · exact power noPower
      · exact outside (same ▸ fits)

/-- The rows of every table are known by the same ids: by the text of a number as by the number, and by
any other text as it stands. The JSON of a row is read also with a number for its id. The digits of a number of 64 bits are read as that number, and one that is
larger, or has a point or a power of ten, is no id. -/
theorem row_ids :
    RowIds Event.decoder Event.id (fun s e => { e with id := s }) Event.toJson ∧
    RowIds TeamRow.decoder TeamRow.id (fun s t => { t with id := s }) TeamRow.toJson ∧
    RowIds Group.decoder Group.id (fun s g => { g with id := s }) Group.toJson ∧
    RowIds Announcement.decoder Announcement.id (fun s a => { a with id := s }) Announcement.toJson ∧
    RowIds BelieversClassRow.decoder BelieversClassRow.id (fun s c => { c with id := s })
      BelieversClassRow.toJson ∧
    ((∀ e, TakesNumbers Event.decoder Event.id (fun s e => { e with id := s }) Event.toJson e) ∧
      (∀ t : TeamRow, t.HasInt32 →
        TakesNumbers TeamRow.decoder TeamRow.id (fun s t => { t with id := s }) TeamRow.toJson t) ∧
      (∀ g, TakesNumbers Group.decoder Group.id (fun s g => { g with id := s }) Group.toJson g) ∧
      (∀ a, TakesNumbers Announcement.decoder Announcement.id (fun s a => { a with id := s })
        Announcement.toJson a) ∧
      ∀ c, TakesNumbers BelieversClassRow.decoder BelieversClassRow.id (fun s c => { c with id := s })
        BelieversClassRow.toJson c) ∧
    (∀ n rest, Json.FitsSignedWord n → Json.Closes rest →
      Json.numberNode (Text.Utf8.ofChars (toString n).toList ++ rest) =
        (.number (.ok (.int n)), some rest)) ∧
    ∀ l : Json.Lexeme, l.fraction ≠ [] ∨ l.power ≠ none ∨ ¬ Json.FitsSignedWord l.integer →
      ¬ (Json.Node.number l.value).IsId :=
  ⟨Event.rowIds, TeamRow.rowIds, Group.rowIds, Announcement.rowIds, BelieversClassRow.rowIds,
    ⟨Event.takesNumbers, fun _ => TeamRow.takesNumbers, Group.takesNumbers, Announcement.takesNumbers,
      BelieversClassRow.takesNumbers⟩,
    fun _ _ fits closes => Json.numberNode_toString fits.fitsWord closes, fun _ => Json.unfit_number⟩

/-- A group whose id is sent as a number has it as a text, and a number with a point is no id at all. -/
theorem numbered_group_read :
    Json.readString Group.decoder ("\x7b\"id\":7,\"name\":\"Southside\",\"meeting_time\":" ++
      "\"Tuesdays\",\"description\":\"Food\"\x7d") = .ok ⟨"7", "Southside", "Tuesdays", "Food"⟩ ∧
    ¬ (Json.Node.number (Json.Lexeme.value ⟨false, [7], [0], none⟩)).IsId := by
  obtain ⟨-, -, -, -, -, ⟨-, -, groups, -⟩, -, unfit⟩ := row_ids
  refine ⟨?_, unfit _ (.inl (List.cons_ne_nil _ _))⟩
  obtain ⟨rest, written, numbered⟩ := groups ⟨"", "Southside", "Tuesdays", "Food"⟩
  cases written
  exact numbered 7 ⟨by decide, by decide⟩

end ParishSite
