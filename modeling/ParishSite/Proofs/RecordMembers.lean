import ParishSite.Json.Decoder
import ParishSite.Proofs.FallibleSteps

/-! The members of an object as the reader of a record takes them, one after another. Whatever a field
asks for must be fit for it wherever it stands, and two values that a field reads alike may stand for
each other. -/

namespace ParishSite.Json

theorem of_read {d : Decoder α} {text : List Text.Utf8.Symbol} {a : α}
    (read : Json.read d text = .ok a) : d .start (Node.ofText text).1 = .ok a := by
  unfold Json.read at read
  generalize Node.ofText text = followed at read ⊢
  obtain ⟨node, rest⟩ := followed
  obtain ⟨value, decoded, ended⟩ := ok_of_bind read
  split at ended
  · cases ended
    exact decoded
  · cases ended

namespace Members

def Has (name : String) (value : Node) : Members → Prop
  | .member (.ok key) v rest => key = name ∧ v = value ∨ rest.Has name value
  | .member (.error _) _ rest => rest.Has name value
  | _ => False

def withValue (name : String) (value : Node) : Members → Members
  | .member (.ok key) v rest =>
    .member (.ok key) (if key = name then value else v) (rest.withValue name value)
  | .member (.error fault) v rest => .member (.error fault) v (rest.withValue name value)
  | other => other

end Members

namespace Record

variable {name : String} {reading : Reading} {mayEndBefore : Bool}

theorem of_decoder {r : Record α} {node : Node} {a : α}
    (decoded : r.decoder name reading node = .ok a) : ∃ inner found, r.build inner found = .ok a := by
  unfold decoder at decoded
  split at decoded
  · obtain ⟨inner, -, rest⟩ := ok_of_bind decoded
    obtain ⟨found, -, built⟩ := ok_of_bind rest
    exact ⟨inner, found, built⟩
  · obtain ⟨inner, -, rest⟩ := ok_of_bind decoded
    obtain ⟨found, -, built⟩ := ok_of_bind rest
    exact ⟨inner, found, built⟩
  · cases decoded

theorem of_extended {r : Record (α → β)} {d : Decoder α} {absent : Except Misfit α}
    {found : List (String × Node)} {b : β}
    (built : (r.extended name d mayEndBefore absent).build reading found = .ok b) :
    ∃ f a, r.build reading found = .ok f ∧ b = f a ∧
      ((∃ node, lookup name found = some node ∧ d reading node = .ok a) ∨
        lookup name found = none ∧ absent = .ok a) := by
  obtain ⟨f, before, last⟩ := ok_of_bind built
  split at last
  · next node seen =>
    obtain ⟨a, read, same⟩ := ok_of_map last
    exact ⟨f, a, before, same, .inl ⟨node, seen, read⟩⟩
  · next unseen =>
    obtain ⟨a, given, same⟩ := ok_of_map last
    exact ⟨f, a, before, same, .inr ⟨unseen, given⟩⟩

/-- A field that may be left out holds what is there, unless that is null. -/
theorem of_optional {r : Record (Option α → β)} {d : Decoder α} {found : List (String × Node)} {b : β}
    (built : (r.optional name d).build reading found = .ok b) :
    ∃ f a?, r.build reading found = .ok f ∧ b = f a? ∧ ∀ a, a? = some a ↔
      ∃ node, lookup name found = some node ∧ node ≠ .null ∧ d reading node = .ok a := by
  obtain ⟨f, a?, first, same, seen | unseen⟩ := of_extended built
  · obtain ⟨node, here, read⟩ := seen
    refine ⟨f, a?, first, same, fun a => ?_⟩
    rw [here]
    unfold Decoder.optional at read
    split at read
    · cases read
      simp
    · next notNull =>
      obtain ⟨b, value, rfl⟩ := ok_of_map read
      constructor
      · rintro ⟨⟩
        exact ⟨node, rfl, notNull, value⟩
      · rintro ⟨_, ⟨⟩, -, value'⟩
        exact congrArg some (Except.ok.inj (value.symm.trans value'))
  · obtain ⟨nowhere, same'⟩ := unseen
    cases same'
    refine ⟨f, none, first, same, fun a => ?_⟩
    simp [nowhere]

/-- An object is not read unless every value that a field asks for is fit for it. -/
theorem readMembers_checked {fields : List Field} {found kept : List (String × Node)} {ms : Members}
    {value : Node} {field : Field} (read : readMembers fields reading found ms = .ok kept)
    (has : ms.Has name value) (known : fieldNamed fields name = some field) :
    field.check reading value = .ok () := by
  fun_induction readMembers fields reading found ms
  case case6 unknown _ ih =>
    rcases has with ⟨rfl, -⟩ | later
    · rw [unknown] at known
      cases known
    · exact ih read later
  case case9 other seen _ checked ih =>
    rcases has with ⟨rfl, rfl⟩ | later
    · rw [known] at seen
      cases seen
      exact checked
    · exact ih read later
  all_goals contradiction

theorem lookup_snoc {found : List (String × Node)} {key : String} {v value : Node}
    (new : isFound found key = false) :
    lookup name (found ++ [(key, v)]) = some value ↔
      lookup name found = some value ∨ key = name ∧ v = value := by
  by_cases same : key = name
  · subst same
    have absent : lookup key found = none := by
      rw [lookup, Option.map_eq_none_iff, List.find?_eq_none]
      exact fun pair member => by simpa using List.any_eq_false.mp new pair member
    simp [lookup, List.find?_append, Option.map_eq_none_iff.mp absent]
  · simp [lookup, List.find?_append, same]

private theorem readMembers_lookup {fields : List Field} {found kept : List (String × Node)} {ms : Members}
    {field : Field} (read : readMembers fields reading found ms = .ok kept)
    (known : fieldNamed fields name = some field) (value : Node) :
    lookup name kept = some value ↔ lookup name found = some value ∨ ms.Has name value := by
  fun_induction readMembers fields reading found ms
  case case1 =>
    cases read
    simp [Members.Has]
  case case6 unknown _ ih =>
    rw [ih read, Members.Has]
    have other : ∀ key, fieldNamed fields key = none → key ≠ name := by
      rintro _ unknown rfl
      rw [unknown] at known
      cases known
    simp [other _ unknown]
  case case9 other seen new checked ih =>
    rw [ih read, lookup_snoc (Bool.eq_false_iff.mpr new), Members.Has, or_assoc]
  all_goals contradiction

/-- What is found under the name of a field is what the object has under it. -/
theorem lookup_iff_has {fields : List Field} {kept : List (String × Node)} {ms : Members}
    {field : Field} (read : readMembers fields reading [] ms = .ok kept)
    (known : fieldNamed fields name = some field) (value : Node) :
    lookup name kept = some value ↔ ms.Has name value := by
  rw [readMembers_lookup read known]
  simp [lookup]

theorem decoder_rejects {r : Record α} {ms : Members} {value : Node} {field : Field} {title : String}
    (has : ms.Has name value) (known : fieldNamed r.fields name = some field)
    (unfit : ∀ inner, field.check inner value ≠ .ok ()) (reading : Reading) (a : α) :
    r.decoder title reading (.object ms) ≠ .ok a := by
  intro decoded
  obtain ⟨inner, -, rest⟩ := ok_of_bind decoded
  obtain ⟨kept, read, -⟩ := ok_of_bind rest
  exact unfit inner (readMembers_checked read has known)

/-- What was found with another value under a name. -/
def put (name : String) (value : Node) (found : List (String × Node)) : List (String × Node) :=
  found.map fun (key, v) => (key, if key = name then value else v)

theorem put_snoc (name : String) (value : Node) (found : List (String × Node)) (key : String)
    (v : Node) : put name value (found ++ [(key, v)]) =
      put name value found ++ [(key, if key = name then value else v)] := List.map_append

theorem isFound_put (name : String) (value : Node) (found : List (String × Node)) (key : String) :
    isFound (put name value found) key = isFound found key := by
  rw [isFound, put, List.any_map]
  rfl

theorem lookup_put (name : String) (value : Node) (found : List (String × Node)) (key : String) :
    lookup key (put name value found) =
      (lookup key found).map fun v => if key = name then value else v := by
  induction found with
  | nil => rfl
  | cons entry found ih =>
    obtain ⟨k, v⟩ := entry
    by_cases here : k = key
    · simp [lookup, put, here]
    · simpa [lookup, put, here] using ih

/-- Two readings fail alike, or end in values that are related. -/
def Alike (R : α → β → Prop) : Except ε α → Except ε β → Prop
  | .ok a, .ok b => R a b
  | .error fault, .error fault' => fault = fault'
  | _, _ => False

theorem Alike.bind {R : α → β → Prop} {S : γ → δ → Prop} {first : Except ε α} {second : Except ε β}
    {f : α → Except ε γ} {g : β → Except ε δ} (alike : Alike R first second)
    (rest : ∀ a b, R a b → Alike S (f a) (g b)) : Alike S (first >>= f) (second >>= g) := by
  cases first with
  | ok a =>
    cases second with
    | ok b => exact rest a b alike
    | error fault => exact alike.elim
  | error fault =>
    cases second with
    | ok b => exact alike.elim
    | error fault' => exact alike

theorem Alike.same {first : Except ε α} {R : α → α → Prop} (diagonal : ∀ a, R a a) :
    Alike R first first := by
  cases first with
  | ok a => exact diagonal a
  | error fault => rfl

theorem Alike.of_ok {R : α → β → Prop} {a : α} {second : Except ε β} (alike : Alike R (.ok a) second) :
    ∃ b, second = .ok b ∧ R a b := by
  cases second with
  | ok b => exact ⟨b, rfl, alike⟩
  | error fault => exact alike.elim

theorem Alike.eq {R : α → α → Prop} {first second : Except ε α} (alike : Alike R first second)
    (same : ∀ a b, R a b → a = b) : first = second := by
  cases first with
  | ok a =>
    obtain ⟨b, rfl, related⟩ := alike.of_ok
    rw [same a b related]
  | error fault =>
    cases second with
    | ok b => exact alike.elim
    | error fault' => exact congrArg Except.error alike

/-- A record is built of what was found with one value under a name and of what was found with another,
and the results are related. -/
structure Relates (r : Record α) (name : String) (x y : Node) (R : α → α → Prop) : Prop where
  checks : ∀ reading, ∀ field ∈ r.fields, field.name = name →
    field.check reading x = field.check reading y
  builds : ∀ reading found,
    Alike R (r.build reading (put name x found)) (r.build reading (put name y found))

namespace Relates

variable {x y : Node} {S : β → β → Prop}

theorem of {R : α → α → Prop} {a : α} (same : R a a) : Relates (Record.of a) name x y R :=
  ⟨fun _ _ member => absurd member List.not_mem_nil, fun _ _ => same⟩

theorem other {r : Record (α → β)} {other : String} {d : Decoder α} {absent : Except Misfit α}
    (relates : Relates r name x y fun f g => ∀ a, S (f a) (g a)) (away : other ≠ name) :
    Relates (r.extended other d mayEndBefore absent) name x y S where
  checks reading field member named := by
    rcases List.mem_append.mp member with before | last
    · exact relates.checks reading field before named
    · rw [List.mem_singleton.mp last] at named
      exact absurd named away
  builds reading found := by
    refine (relates.builds reading found).bind fun f g both => ?_
    rw [lookup_put, lookup_put]
    simp only [if_neg away, Option.map_id']
    cases lookup other found with
    | none =>
      cases absent with
      | ok a => exact both a
      | error fault => exact rfl
    | some node =>
      dsimp only
      cases d reading node with
      | ok a => exact both a
      | error fault => exact rfl

theorem here {r : Record (α → β)} {d : Decoder α} {a b : α} {fault : Misfit}
    (relates : Relates r name x y fun f g => S (f a) (g b)) (left : ∀ reading, d reading x = .ok a)
    (right : ∀ reading, d reading y = .ok b) :
    Relates (r.extended name d mayEndBefore (.error fault)) name x y S where
  checks reading field member named := by
    rcases List.mem_append.mp member with before | last
    · exact relates.checks reading field before named
    · rw [List.mem_singleton.mp last]
      change (fun _ => ()) <$> d reading x = (fun _ => ()) <$> d reading y
      rw [left, right]
      rfl
  builds reading found := by
    refine (relates.builds reading found).bind fun f g both => ?_
    rw [lookup_put, lookup_put]
    simp only [if_true]
    cases lookup name found with
    | none => exact rfl
    | some node =>
      dsimp only [Option.map_some]
      rw [left, right]
      exact both

end Relates

/-- The members with one value under a name and with the other are taken alike, one by one. -/
theorem readMembers_alike {fields : List Field} {x y : Node} (passed : x.pass = y.pass)
    (checks : ∀ field ∈ fields, field.name = name → field.check reading x = field.check reading y)
    (found : List (String × Node)) (ms : Members) :
    Alike (fun kept kept' => ∃ both, kept = put name x both ∧ kept' = put name y both)
      (readMembers fields reading (put name x found) (ms.withValue name x))
      (readMembers fields reading (put name y found) (ms.withValue name y)) := by
  fun_induction Members.withValue name x ms generalizing found
  case case1 key v rest ih =>
    rw [Members.withValue, readMembers, readMembers]
    cases known : fieldNamed fields key with
    | none =>
      have passes : (if key = name then x else v).pass = (if key = name then y else v).pass := by
        split
        · exact passed
        · rfl
      dsimp only
      rw [passes]
      cases (if key = name then y else v).pass with
      | ok _ => exact ih found
      | error fault => exact rfl
    | some field =>
      obtain ⟨member, named⟩ : field ∈ fields ∧ field.name = key :=
        ⟨List.mem_of_find?_eq_some known, by simpa using List.find?_some known⟩
      have checked : field.check reading (if key = name then x else v) =
          field.check reading (if key = name then y else v) := by
        split
        · next same => exact checks field member (named.trans same)
        · rfl
      dsimp only
      rw [isFound_put, isFound_put, checked]
      split
      · exact rfl
      · cases field.check reading (if key = name then y else v) with
        | ok _ =>
          have more := ih (found ++ [(key, v)])
          rw [put_snoc, put_snoc] at more
          exact more
        | error fault => exact rfl
  case case2 fault v rest ih => exact rfl
  case case3 other notRead notBroken =>
    cases other with
    | done => exact ⟨found, rfl, rfl⟩
    | member key v rest =>
      cases key with
      | ok key => exact (notRead key v rest rfl).elim
      | error fault => exact (notBroken fault v rest rfl).elim
    | _ => exact rfl

theorem Relates.decoder {r : Record α} {x y : Node} {R : α → α → Prop} (relates : Relates r name x y R)
    (passed : x.pass = y.pass) (title : String) (reading : Reading) (ms : Members) :
    Alike R (r.decoder title reading (.object (ms.withValue name x)))
      (r.decoder title reading (.object (ms.withValue name y))) := by
  refine Alike.bind (R := Eq) (Alike.same fun _ => rfl) ?_
  rintro inner _ rfl
  refine (readMembers_alike passed (relates.checks inner) [] ms).bind ?_
  rintro _ _ ⟨both, rfl, rfl⟩
  exact relates.builds inner both

end Record
end ParishSite.Json
