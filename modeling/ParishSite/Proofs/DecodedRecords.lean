import ParishSite.Proofs.WrittenInstants
import ParishSite.Proofs.WrittenTrees

/-! What a decoder makes of a written value. There is one rule for every way to build a decoder, so that
the reading of a record follows from the reading of its fields: each is found under its name, once,
whatever stands beside it. -/

namespace ParishSite.Json

/-- A reading that may open so many more levels. -/
def Reading.Allows (levels : Nat) : Reading → Prop
  | .direct most => levels ≤ most
  | .buffered => True

theorem Reading.Allows.opened {levels : Nat} {r : Reading} (allows : r.Allows (levels + 1)) :
    ∃ inner, r.opened = .ok inner ∧ inner.Allows levels := by
  cases r with
  | direct most =>
    cases most with
    | zero => exact absurd allows (Nat.not_succ_le_zero _)
    | succ most => exact ⟨.direct most, rfl, Nat.le_of_succ_le_succ allows⟩
  | buffered => exact ⟨.buffered, rfl, trivial⟩

/-- A decoder reads a written value as `a`, opening no more than so many levels. The numbers of the value
are integers of 64 bits, so that its text has the tree that is read. -/
structure Decodes (levels : Nat) (d : Decoder α) (j : Json) (a : α) : Prop where
  exact : j.IsExact
  reads : ∀ reading : Reading, reading.Allows levels → d reading j.tree = .ok a

namespace Decodes

variable {α : Type} {d : Decoder α} {j : Json} {a : α} {levels : Nat}

theorem string (s : String) : Decodes levels .string (.str s) s := ⟨trivial, fun _ _ => rfl⟩

theorem bool (b : Bool) : Decodes levels .bool (.bool b) b := ⟨trivial, fun _ _ => rfl⟩

theorem int32 {n : Int} (least : -2147483648 ≤ n) (most : n ≤ 2147483647) :
    Decodes levels .int32 (.int n) n where
  exact := show FitsWord n from ⟨by omega, by omega⟩
  reads _ _ := if_pos ⟨least, most⟩

theorem instant (t : Time.Instant) : Decodes levels .instant (Json.instant t) t where
  exact := trivial
  reads reading _ := by simp only [Json.instant, tree, Decoder.instant, Time.Rfc3339.read_writeZ]

theorem rowId (id : String) : Decodes levels .rowId (.str id) id := ⟨trivial, fun _ _ => rfl⟩

theorem any_str (s : String) : Decodes levels .any (.str s) (.str s) := ⟨trivial, fun _ _ => rfl⟩

theorem any_null : Decodes levels .any .null .null := ⟨trivial, fun _ _ => rfl⟩

theorem variant {known : List (String × α)} {name : String}
    (found : known.find? (fun (n, _) => n = name) = some (name, a)) :
    Decodes levels (.variant known) (.str name) a where
  exact := trivial
  reads _ _ := by
    change Decoder.variantNamed known name = _
    rw [Decoder.variantNamed, found]

theorem none_null : Decodes levels d.optional .null none := ⟨trivial, fun _ _ => rfl⟩

theorem some_value (decodes : Decodes levels d j a) (filled : j.tree ≠ .null) :
    Decodes levels d.optional j (some a) where
  exact := decodes.exact
  reads reading allows := by
    unfold Decoder.optional
    split
    · next empty => exact absurd empty filled
    · rw [decodes.reads reading allows]
      rfl

theorem text? (text : Option String) : Decodes levels (Decoder.optional .string) (Json.text? text) text := by
  cases text with
  | none => exact none_null
  | some s => exact some_value (string s) (by rintro ⟨⟩)

theorem instant? (t : Option Time.Instant) :
    Decodes levels (Decoder.optional .instant) (Json.instant? t) t := by
  cases t with
  | none => exact none_null
  | some t => exact some_value (instant t) (by rintro ⟨⟩)

theorem int32? {n : Option Int} (within : ∀ i, n = some i → -2147483648 ≤ i ∧ i ≤ 2147483647) :
    Decodes levels (Decoder.optional .int32) (Json.int? n) n := by
  cases n with
  | none => exact none_null
  | some i =>
    obtain ⟨least, most⟩ := within i rfl
    exact some_value (int32 least most) (by rintro ⟨⟩)

theorem items {values : List α} {write : α → Json}
    (each : ∀ a ∈ values, Decodes levels d (write a) a) {reading : Reading}
    (allows : reading.Allows levels) (index : Nat) :
    Decoder.items d reading index (itemTrees (values.map write)) = .ok values := by
  induction values generalizing index with
  | nil => rfl
  | cons a values ih =>
    have first := (each a List.mem_cons_self).reads reading allows
    have rest := ih (fun b member => each b (List.mem_cons_of_mem a member)) (index + 1)
    rw [List.map_cons, itemTrees, Decoder.items, first, rest]
    rfl

theorem allExact {values : List α} {write : α → Json}
    (each : ∀ a ∈ values, Decodes levels d (write a) a) : AllExact (values.map write) := by
  induction values with
  | nil => trivial
  | cons a values ih =>
    exact ⟨(each a List.mem_cons_self).exact, ih fun b member => each b (List.mem_cons_of_mem a member)⟩

theorem list {values : List α} {write : α → Json}
    (each : ∀ a ∈ values, Decodes levels d (write a) a) :
    Decodes (levels + 1) (.list d) (.arr (values.map write)) values where
  exact := allExact each
  reads reading allows := by
    obtain ⟨inner, opened, inside⟩ := allows.opened
    change (reading.opened >>= fun r => Decoder.items d r 0 (itemTrees (values.map write))) = _
    rw [opened]
    exact items each inside 0

end Decodes

def keys (members : List (String × Json)) : List String := members.map (·.1)

/-- The members of an object as the reader of a record keeps them. -/
def nodes (members : List (String × Json)) : List (String × Node) :=
  members.map fun (key, value) => (key, value.tree)

theorem MembersExact.append {members after : List (String × Json)} (first : MembersExact members)
    (second : MembersExact after) : MembersExact (members ++ after) := by
  induction members with
  | nil => exact second
  | cons member members ih => exact ⟨first.1, ih first.2⟩

theorem keys_nodes (members : List (String × Json)) : (nodes members).map (·.1) = keys members := by
  rw [nodes, keys, List.map_map]
  rfl

theorem lookup_absent {members : List (String × Json)} {key : String} (absent : key ∉ keys members) :
    Record.lookup key (nodes members) = none := by
  rw [Record.lookup, Option.map_eq_none_iff, List.find?_eq_none]
  intro pair member same
  obtain ⟨⟨name, value⟩, inside, rfl⟩ := List.mem_map.mp member
  have same : name = key := by simpa using same
  exact absent (same ▸ List.mem_map_of_mem inside)

theorem lookup_past {members : List (String × Json)} {key : String} (absent : key ∉ keys members)
    (value : Json) (later : List (String × Json)) :
    Record.lookup key (nodes (members ++ (key, value) :: later)) = some value.tree := by
  have nowhere := Option.map_eq_none_iff.mp (lookup_absent absent)
  rw [Record.lookup, nodes, List.map_append, List.find?_append]
  change Option.map _ ((List.find? _ (nodes members)).or _) = _
  rw [nowhere]
  simp

namespace Record

def names (r : Record α) : List String := r.fields.map Field.name

/-- Members that no field of a record asks for. -/
def Ignores (r : Record α) (members : List (String × Json)) : Prop :=
  ∀ key ∈ keys members, key ∉ r.names

/-- The fields of a record, as far as they are given so far, are read from their members as `a`. The
members stand in the order of the fields, and others that no field asks for may follow. -/
structure Reads (levels : Nat) (members : List (String × Json)) (r : Record α) (a : α) : Prop where
  exact : MembersExact members
  named : (keys members).Sublist r.names
  checked : r.names.Nodup → ∀ later, r.Ignores later → ∀ reading : Reading, reading.Allows levels →
    ∀ field ∈ r.fields, ∀ node, lookup field.name (nodes (members ++ later)) = some node →
      field.check reading node = .ok ()
  built : r.names.Nodup → ∀ later, r.Ignores later → ∀ reading : Reading, reading.Allows levels →
    r.build reading (nodes (members ++ later)) = .ok a

variable {α β : Type} {levels : Nat} {members later : List (String × Json)} {d : Decoder α}
  {name : String} {value : Json} {mayEndBefore : Bool} {absent : Except Misfit α}

theorem ignores_nil (r : Record α) : r.Ignores [] := fun _ member => absurd member List.not_mem_nil

theorem names_extended (r : Record (α → β)) :
    (r.extended name d mayEndBefore absent).names = r.names ++ [name] := by
  rw [names, names, extended, List.map_append]
  rfl

theorem names_split {r : Record (α → β)}
    (distinct : (r.extended name d mayEndBefore absent).names.Nodup) :
    r.names.Nodup ∧ name ∉ r.names := by
  rw [names_extended] at distinct
  obtain ⟨first, _, apart⟩ := List.nodup_append.mp distinct
  exact ⟨first, fun old => apart name old name List.mem_cons_self rfl⟩

theorem Ignores.split {r : Record (α → β)}
    (ignores : (r.extended name d mayEndBefore absent).Ignores later) :
    r.Ignores later ∧ name ∉ keys later := by
  rw [Ignores, names_extended] at ignores
  exact ⟨fun key member old => ignores key member (List.mem_append_left _ old),
    fun member => ignores name member (List.mem_append_right _ List.mem_cons_self)⟩

theorem Ignores.cons {r : Record α} (ignores : r.Ignores later) (new : name ∉ r.names) :
    r.Ignores ((name, value) :: later) := by
  intro key member
  rcases List.mem_cons.mp member with rfl | member
  · exact new
  · exact ignores key member

namespace Reads

theorem of (a : α) : Reads levels [] (Record.of a) a where
  exact := trivial
  named := List.Sublist.refl []
  checked _ _ _ _ _ _ member := absurd member List.not_mem_nil
  built _ _ _ _ _ := rfl

variable {r : Record (α → β)} {f : α → β} {a : α}

theorem found (reads : Reads levels members r f) (decodes : Decodes levels d value a) :
    Reads levels (members ++ [(name, value)]) (r.extended name d mayEndBefore absent) (f a) := by
  have place {later : List (String × Json)} (new : name ∉ r.names) :
      lookup name (nodes (members ++ (name, value) :: later)) = some value.tree :=
    lookup_past (fun old => new (reads.named.subset old)) value later
  constructor
  case exact => exact reads.exact.append ⟨decodes.exact, trivial⟩
  case named =>
    rw [names_extended, keys, List.map_append]
    exact reads.named.append (List.Sublist.refl [name])
  case checked =>
    intro distinct later ignores reading allows field inside node seen
    obtain ⟨distinct, new⟩ := names_split distinct
    rw [List.append_assoc] at seen
    rcases List.mem_append.mp inside with before | last
    · exact reads.checked distinct _ (ignores.split.1.cons new) reading allows field before node seen
    · rw [List.mem_singleton.mp last, List.singleton_append, place new] at seen
      rw [List.mem_singleton.mp last, ← Option.some.inj seen]
      change (fun _ => ()) <$> d reading value.tree = _
      rw [decodes.reads reading allows]
      rfl
  case built =>
    intro distinct later ignores reading allows
    obtain ⟨distinct, new⟩ := names_split distinct
    have skipped : r.Ignores ((name, value) :: later) := ignores.split.1.cons new
    have before := reads.built distinct _ skipped reading allows
    rw [List.append_assoc, List.singleton_append, extended]
    simp only [before, place new, decodes.reads reading allows, Bind.bind, Except.bind]
    rfl

theorem missing (reads : Reads levels members r f) :
    Reads levels members (r.extended name d mayEndBefore (.ok a)) (f a) := by
  have nowhere {later : List (String × Json)} (new : name ∉ r.names) (away : name ∉ keys later) :
      lookup name (nodes (members ++ later)) = none := by
    refine lookup_absent fun old => ?_
    rw [keys, List.map_append] at old
    rcases List.mem_append.mp old with old | old
    · exact new (reads.named.subset old)
    · exact away old
  constructor
  case exact => exact reads.exact
  case named =>
    rw [names_extended]
    exact reads.named.trans (List.sublist_append_left _ _)
  case checked =>
    intro distinct later ignores reading allows field inside node seen
    obtain ⟨distinct, new⟩ := names_split distinct
    obtain ⟨skipped, away⟩ := ignores.split
    rcases List.mem_append.mp inside with before | last
    · exact reads.checked distinct later skipped reading allows field before node seen
    · rw [List.mem_singleton.mp last, nowhere new away] at seen
      cases seen
  case built =>
    intro distinct later ignores reading allows
    obtain ⟨distinct, new⟩ := names_split distinct
    obtain ⟨skipped, away⟩ := ignores.split
    have before := reads.built distinct later skipped reading allows
    rw [extended]
    simp only [before, nowhere new away, Bind.bind, Except.bind]
    rfl

theorem required (reads : Reads levels members r f) (name : String) (decodes : Decodes levels d value a) :
    Reads levels (members ++ [(name, value)]) (r.required name d) (f a) := reads.found decodes

theorem optional {r : Record (Option α → β)} {f : Option α → β} {a : Option α}
    (reads : Reads levels members r f) (name : String) (decodes : Decodes levels d.optional value a) :
    Reads levels (members ++ [(name, value)]) (r.optional name d) (f a) := reads.found decodes

theorem defaulted (reads : Reads levels members r f) (name : String) (decodes : Decodes levels d value a)
    (default : α) : Reads levels (members ++ [(name, value)]) (r.defaulted name d default) (f a) :=
  reads.found decodes

theorem given {r : Record (Option String → β)} {f : Option String → β} (reads : Reads levels members r f)
    (name : String) (text : Option String) :
    Reads levels (members ++ Json.given name text) (r.defaulted name (.optional .string) none) (f text) := by
  cases text with
  | none =>
    rw [Json.given, List.append_nil]
    exact reads.missing
  | some s => exact reads.defaulted name (.some_value (.string s) (by rintro ⟨⟩)) none

end Reads

variable {r : Record α} {a : α}

/-- The reader stands before a member that one of the fields asks for. -/
theorem Reads.next {before after : List (String × Json)}
    (reads : Reads levels (before ++ (name, value) :: after) r a) (distinct : r.names.Nodup)
    {reading : Reading} (allows : reading.Allows levels) :
    ∃ field, fieldNamed r.fields name = some field ∧ isFound (nodes before) name = false ∧
      field.check reading value.tree = .ok () := by
  have once : (keys (before ++ (name, value) :: after)).Nodup := distinct.sublist reads.named
  have new : name ∉ keys before := by
    rw [keys, List.map_append] at once
    exact fun old => (List.nodup_append.mp once).2.2 name old name List.mem_cons_self rfl
  have known : name ∈ r.names := by
    refine reads.named.subset ?_
    rw [keys, List.map_append]
    exact List.mem_append_right _ List.mem_cons_self
  cases found : fieldNamed r.fields name with
  | none =>
    obtain ⟨field, member, same⟩ := List.mem_map.mp known
    have other := List.find?_eq_none.mp found field member
    exact absurd same (by simpa using other)
  | some field =>
    have same : field.name = name := by simpa using List.find?_some found
    refine ⟨field, rfl, ?_, ?_⟩
    · rw [isFound, List.any_eq_false]
      intro pair member hit
      rw [← keys_nodes] at new
      exact new (List.mem_map.mpr ⟨pair, member, by simpa using hit⟩)
    · refine reads.checked distinct [] (ignores_nil r) reading allows field
        (List.mem_of_find?_eq_some found) value.tree ?_
      rw [same, List.append_nil, lookup_past new]

theorem cut (before after : List (String × Json)) (member : String × Json) :
    before ++ member :: after = before ++ [member] ++ after := by
  rw [List.append_assoc, List.singleton_append]

theorem nodes_snoc (before : List (String × Json)) :
    nodes before ++ [(name, value.tree)] = nodes (before ++ [(name, value)]) := by
  rw [nodes, nodes, List.map_append]
  rfl

/-- The members of a record are all read, each after those before it. -/
theorem Reads.membersRead (before : List (String × Json)) (reads : Reads levels (before ++ members) r a)
    (distinct : r.names.Nodup) {reading : Reading} (allows : reading.Allows levels) :
    readMembers r.fields reading (nodes before) (memberTrees members) = .ok (nodes (before ++ members)) := by
  induction members generalizing before with
  | nil =>
    rw [List.append_nil]
    rfl
  | cons member members ih =>
    obtain ⟨field, found, new, right⟩ := reads.next distinct allows
    rw [cut] at reads
    have later := ih _ reads
    rw [memberTrees, readMembers]
    simp only [found, new, right, Bool.false_eq_true, if_false, nodes_snoc, later, cut before members]

theorem Reads.decoder (reads : Reads levels members r a) (distinct : r.names.Nodup) {name : String} :
    Decodes (levels + 1) (r.decoder name) (.obj members) a := by
  refine ⟨reads.exact, fun reading allows => ?_⟩
  obtain ⟨inner, opened, inside⟩ := allows.opened
  have built := reads.built distinct [] (ignores_nil r) inner inside
  rw [List.append_nil] at built
  change (do
    let reading ← reading.opened
    r.build reading (← readMembers r.fields reading [] (memberTrees members))) = _
  rw [opened]
  change (do r.build inner (← readMembers r.fields inner (nodes []) (memberTrees members))) = _
  rw [Reads.membersRead [] reads distinct inside]
  exact built

/-- Members that are not asked for are kept, once they have been read as a whole. -/
theorem readOwn_others {own : Record (β → α)} {others : List (String × Json)} (ignores : own.Ignores others)
    (whole : ∀ member ∈ others, ∃ v, Decodes levels .any member.2 v) {reading : Reading}
    (allows : reading.Allows levels) (found kept : List (String × Node)) (after : List (String × Json)) :
    readOwn own.fields reading found kept (memberTrees (others ++ after)) =
      readOwn own.fields reading found (kept ++ nodes others) (memberTrees after) := by
  induction others generalizing kept with
  | nil => rw [nodes, List.map_nil, List.append_nil, List.nil_append]
  | cons member others ih =>
    obtain ⟨key, value⟩ := member
    have unknown : fieldNamed own.fields key = none := by
      refine List.find?_eq_none.mpr fun field member same => ?_
      exact ignores key List.mem_cons_self (List.mem_map.mpr ⟨field, member, by simpa using same⟩)
    obtain ⟨v, read⟩ := whole (key, value) List.mem_cons_self
    have rest := ih (fun other member => ignores other (List.mem_cons_of_mem key member))
      (fun other member => whole other (List.mem_cons_of_mem _ member)) (kept ++ [(key, value.tree)])
    have read : value.tree.whole reading = .ok v := read.reads reading allows
    rw [List.cons_append, memberTrees, readOwn]
    simp only [unknown, read]
    rw [rest, List.append_assoc]
    rfl

theorem Reads.ownRead (before : List (String × Json)) (reads : Reads levels (before ++ members) r a)
    (distinct : r.names.Nodup) {reading : Reading} (allows : reading.Allows levels)
    (kept : List (String × Node)) :
    readOwn r.fields reading (nodes before) kept (memberTrees members) =
      .ok (nodes (before ++ members), kept) := by
  induction members generalizing before with
  | nil =>
    rw [List.append_nil]
    rfl
  | cons member members ih =>
    obtain ⟨field, found, new, right⟩ := reads.next distinct allows
    rw [cut] at reads
    have later := ih _ reads
    rw [memberTrees, readOwn]
    simp only [found, new, right, Bool.false_eq_true, if_false, nodes_snoc, later, cut before members]

theorem Reads.keptRead (before : List (String × Json)) (reads : Reads levels (before ++ members) r a)
    (distinct : r.names.Nodup) :
    readKept r.fields (nodes before) (nodes members) = .ok (nodes (before ++ members)) := by
  induction members generalizing before with
  | nil =>
    rw [List.append_nil]
    rfl
  | cons member members ih =>
    have allows : Reading.buffered.Allows levels := trivial
    obtain ⟨field, found, new, right⟩ := reads.next distinct allows
    rw [cut] at reads
    have later := ih _ reads
    change readKept r.fields (nodes before) ((member.1, member.2.tree) :: nodes members) = _
    rw [readKept]
    simp only [found, new, right, Bool.false_eq_true, if_false, nodes_snoc, later, cut before members]

/-- Two records that share an object are read from the members of both, whose names differ. -/
theorem Reads.decoderWith {own : Record (β → α)} {inner : Record β} {f : β → α} {b : β}
    {ours theirs : List (String × Json)} (reads : Reads levels ours own f)
    (others : Reads levels theirs inner b) (distinct : (inner.names ++ own.names).Nodup)
    (whole : ∀ member ∈ theirs, ∃ v, Decodes levels .any member.2 v) {name : String} :
    Decodes (levels + 1) (Record.decoderWith name own inner) (.obj (theirs ++ ours)) (f b) := by
  refine ⟨others.exact.append reads.exact, fun reading allows => ?_⟩
  obtain ⟨within, opened, inside⟩ := allows.opened
  obtain ⟨once, onceOwn, apart⟩ := List.nodup_append.mp distinct
  have ignores : own.Ignores theirs := fun key member old =>
    apart key (others.named.subset member) key old rfl
  have split : readOwn own.fields within [] [] (memberTrees (theirs ++ ours)) =
      .ok (nodes ours, nodes theirs) := by
    rw [readOwn_others ignores whole inside]
    exact Reads.ownRead [] reads onceOwn inside _
  have kept : readKept inner.fields [] (nodes theirs) = .ok (nodes theirs) :=
    Reads.keptRead [] others once
  -- The members that were kept are read a second time, by the inner record.
  have first := reads.built onceOwn [] (ignores_nil own) within inside
  have second := others.built once [] (ignores_nil inner) .buffered trivial
  rw [List.append_nil] at first second
  simp only [Record.decoderWith, tree, opened, split, first, kept, second, Bind.bind, Except.bind]

end Record

/-- A value that is written as text is read back from it. -/
def ReadsBack (d : Decoder α) (write : α → Json) (a : α) : Prop :=
  readString d (write a).toText = .ok a

theorem Decodes.read {α : Type} {d : Decoder α} {j : Json} {a : α} {levels : Nat}
    (decodes : Decodes levels d j a) (few : levels ≤ 127) :
    Json.read d (Text.Utf8.ofChars j.render) = .ok a := by
  rw [Json.read, ofText_render decodes.exact]
  change (do
    let a ← d .start j.tree
    if ((some []).map skipSpace).all List.isEmpty then Except.ok a else _) = _
  rw [decodes.reads .start few]
  rfl

theorem Decodes.readText {α : Type} {d : Decoder α} {j : Json} {a : α} {levels : Nat}
    (decodes : Decodes levels d j a) (few : levels ≤ 127) : readString d j.toText = .ok a := by
  rw [readString, toText, String.toList_ofList]
  exact decodes.read few

theorem Decodes.readsBack {α : Type} {d : Decoder α} {write : α → Json} {a : α} {levels : Nat}
    (decodes : Decodes levels d (write a) a) (few : levels ≤ 127) : ReadsBack d write a :=
  decodes.readText few

end ParishSite.Json
