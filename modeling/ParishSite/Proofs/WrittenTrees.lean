import ParishSite.Json.Decoder
import ParishSite.Proofs.WrittenTokens

/-! A written value is followed to its end: the tree of its text holds each of its parts in its place
and no fault, and what comes after the value is left. -/

namespace ParishSite.Json

open Text.Utf8 (Symbol ofChars)

mutual

/-- The tree of a value's text. -/
def tree : Json → Node
  | .null => .null
  | .bool b => .bool b
  | .int n => .number (.ok (.int n))
  | .float x => .number (.ok (.float x))
  | .str s => .str (.ok s)
  | .arr items => .list (itemTrees items)
  | .obj members => .object (memberTrees members)

def itemTrees : List Json → Items
  | [] => .done
  | item :: rest => .item item.tree (itemTrees rest)

def memberTrees : List (String × Json) → Members
  | [] => .done
  | (key, value) :: rest => .member (.ok key) value.tree (memberTrees rest)

end

mutual

/-- A value whose numbers are integers of 64 bits. -/
def IsExact : Json → Prop
  | .float _ => False
  | .int n => FitsWord n
  | .arr items => AllExact items
  | .obj members => MembersExact members
  | .null | .bool _ | .str _ => True

def AllExact : List Json → Prop
  | [] => True
  | item :: rest => item.IsExact ∧ AllExact rest

def MembersExact : List (String × Json) → Prop
  | [] => True
  | (_, value) :: rest => value.IsExact ∧ MembersExact rest

end

/-- A value starts with a sign of its own, which is neither white space nor a closing bracket. -/
def Opens (c : Char) : Prop := isSpace (some c) = false ∧ c ≠ ']' ∧ c ≠ '\x7d'

theorem toString_opens (n : Int) :
    ∃ c text, (toString n).toList = c :: text ∧ (c = '-' ∨ c.isDigit = true) := by
  rw [toList_toString]
  split
  · exact ⟨_, _, rfl, .inl rfl⟩
  · cases digits : Nat.toDigits 10 n.natAbs with
    | nil => exact absurd digits Nat.toDigits_ne_nil
    | cons d ds =>
      refine ⟨d, ds, rfl, .inr (Number.toDigits_isDigit n.natAbs d ?_)⟩
      rw [digits]
      exact List.mem_cons_self

theorem opens_digit {c : Char} (digit : c.isDigit = true) : Opens c := by
  refine ⟨?_, ?_, ?_⟩
  · cases space : isSpace (some c) with
    | false => rfl
    | true =>
      simp only [isSpace, Bool.or_eq_true, decide_eq_true_eq] at space
      rcases space with ((rfl | rfl) | rfl) | rfl <;> cases digit
  · rintro rfl
    cases digit
  · rintro rfl
    cases digit

theorem render_opens {j : Json} (exact : j.IsExact) : ∃ c text, j.render = c :: text ∧ Opens c := by
  have sign {c : Char} (text : List Char) (opens : Opens c) :
      ∃ d rest, c :: text = d :: rest ∧ Opens d := ⟨c, text, rfl, opens⟩
  have plain : ∀ c ∈ ['n', 't', 'f', '"', '[', '\x7b', '-'], Opens c := by
    simp only [List.forall_mem_cons, List.not_mem_nil, false_imp_iff, implies_true, and_true, Opens]
    decide
  match j with
  | .null => exact sign _ (plain 'n' (by decide))
  | .bool true => exact sign _ (plain 't' (by decide))
  | .bool false => exact sign _ (plain 'f' (by decide))
  | .int n =>
    obtain ⟨c, text, written, first⟩ := toString_opens n
    refine ⟨c, text, by rw [render, written], ?_⟩
    rcases first with rfl | digit
    · exact plain '-' (by decide)
    · exact opens_digit digit
  | .float x => exact exact.elim
  | .str s => exact sign _ (plain '"' (by decide))
  | .arr [] => exact sign _ (plain '[' (by decide))
  | .arr (item :: rest) => exact sign _ (plain '[' (by decide))
  | .obj [] => exact sign _ (plain '\x7b' (by decide))
  | .obj (member :: rest) => exact sign _ (plain '\x7b' (by decide))

theorem skipSpace_opens {c : Char} (opens : Opens c) (rest : List Symbol) :
    skipSpace (some c :: rest) = some c :: rest :=
  List.dropWhile_cons_of_neg (by rw [opens.1]; exact Bool.false_ne_true)

section
variable {c : Char} {fuel : Nat} {rest text : List Symbol} {value : Node}

theorem nodeAt_opens (opens : Opens c) :
    nodeAt (fuel + 1) (some c :: rest) =
      if c = 'n' then wordNode ['u', 'l', 'l'] .null rest
      else if c = 't' then wordNode ['r', 'u', 'e'] (.bool true) rest
      else if c = 'f' then wordNode ['a', 'l', 's', 'e'] (.bool false) rest
      else if c = '"' then stringNode rest
      else if startsNumber c then numberNode (some c :: rest)
      else if c = '[' then
        match skipSpace rest with
        | [] => (.list (.stuck .endOfText), none)
        | some ']' :: rest => (.list .done, some rest)
        | inside => (.list (itemsAt fuel inside).1, (itemsAt fuel inside).2)
      else if c = '\x7b' then
        match skipSpace rest with
        | [] => (.object (.stuck .endOfText), none)
        | some '\x7d' :: rest => (.object .done, some rest)
        | inside => (.object (membersAt fuel inside).1, (membersAt fuel inside).2)
      else (.broken .expectedValue .expectedValue, none) := by
  rewrite [nodeAt, skipSpace_opens opens]
  rfl

theorem nodeAt_string (s : String) :
    nodeAt (fuel + 1) (ofChars (renderText s) ++ rest) = (.str (.ok s), some rest) := by
  rw [ofChars_renderText, nodeAt_opens (by unfold Opens; decide), if_neg (by decide),
    if_neg (by decide), if_neg (by decide), if_pos rfl, stringNode_written]

theorem nodeAt_number {n : Int} (fits : FitsWord n) (closes : Closes rest) :
    nodeAt (fuel + 1) (ofChars (toString n).toList ++ rest) = (.number (.ok (.int n)), some rest) := by
  have node := numberNode_toString fits closes
  obtain ⟨c, text, written, first⟩ := toString_opens n
  have starts : startsNumber c = true := by
    rcases first with rfl | digit
    · rfl
    · rw [startsNumber, digit?_digit digit, Option.isSome_some, Bool.or_true]
  have other : ∀ letter ∈ ['n', 't', 'f', '"'], c ≠ letter := by
    rintro letter member rfl
    have excluded : ∀ l ∈ ['n', 't', 'f', '"'], startsNumber l = false := by
      simp only [List.forall_mem_cons, List.not_mem_nil, false_imp_iff, implies_true, and_true]
      decide
    rw [excluded c member] at starts
    cases starts
  have opens : Opens c := by
    rcases first with rfl | digit
    · unfold Opens
      decide
    · exact opens_digit digit
  rw [written, ofChars_cons, List.cons_append] at node ⊢
  rw [nodeAt_opens opens, if_neg (other 'n' (by decide)), if_neg (other 't' (by decide)),
    if_neg (other 'f' (by decide)), if_neg (other '"' (by decide)), if_pos starts, node]

theorem nodeAt_list (opens : Opens c) :
    nodeAt (fuel + 1) (some '[' :: some c :: text) =
      (.list (itemsAt fuel (some c :: text)).1, (itemsAt fuel (some c :: text)).2) := by
  rw [nodeAt_opens (by unfold Opens; decide), if_neg (by decide), if_neg (by decide),
    if_neg (by decide), if_neg (by decide), if_neg (by decide), if_pos rfl, skipSpace_opens opens]
  split
  · next empty => cases empty
  · next closed =>
    cases closed
    exact absurd rfl opens.2.1
  · rfl

theorem nodeAt_object :
    nodeAt (fuel + 1) (some '\x7b' :: some '"' :: text) =
      (.object (membersAt fuel (some '"' :: text)).1, (membersAt fuel (some '"' :: text)).2) := by
  rw [nodeAt_opens (by unfold Opens; decide), if_neg (by decide), if_neg (by decide),
    if_neg (by decide), if_neg (by decide), if_neg (by decide), if_neg (by decide), if_pos rfl,
    skipSpace_opens (by unfold Opens; decide)]
  rfl

theorem itemsAt_last (read : nodeAt fuel text = (value, some (some ']' :: rest))) :
    itemsAt (fuel + 1) text = (.item value .done, some rest) := by
  rw [itemsAt, read]
  rfl

theorem itemsAt_next (opens : Opens c)
    (read : nodeAt fuel text = (value, some (some ',' :: some c :: rest))) :
    itemsAt (fuel + 1) text =
      (.item value (itemsAt fuel (some c :: rest)).1, (itemsAt fuel (some c :: rest)).2) := by
  have comma : skipSpace (some ',' :: some c :: rest) = some ',' :: some c :: rest := rfl
  rw [itemsAt, read]
  simp only [comma, skipSpace_opens opens]
  split
  · next empty => cases empty
  · next closed =>
    cases closed
    exact absurd rfl opens.2.1
  · rfl

theorem membersAt_last (key : String) (read : nodeAt fuel text = (value, some (some '\x7d' :: rest))) :
    membersAt (fuel + 1) (ofChars (renderText key) ++ some ':' :: text) =
      (.member (.ok key) value .done, some rest) := by
  obtain ⟨pieces, body, named⟩ := stringBody_renderText key (some ':' :: text)
  have colon : skipSpace (some ':' :: text) = some ':' :: text := rfl
  rw [ofChars_renderText, membersAt, body]
  simp only [named, StringEnd.passed, colon, read]
  rfl

theorem membersAt_next (key : String)
    (read : nodeAt fuel text = (value, some (some ',' :: some '"' :: rest))) :
    membersAt (fuel + 1) (ofChars (renderText key) ++ some ':' :: text) =
      (.member (.ok key) value (membersAt fuel (some '"' :: rest)).1,
        (membersAt fuel (some '"' :: rest)).2) := by
  obtain ⟨pieces, body, named⟩ := stringBody_renderText key (some ':' :: text)
  have colon : skipSpace (some ':' :: text) = some ':' :: text := rfl
  rw [ofChars_renderText, membersAt, body]
  simp only [named, StringEnd.passed, colon, read]
  rfl

end

theorem renderItems_closes (items : List Json) (rest : List Symbol) :
    Closes (ofChars (renderItems items) ++ rest) := by
  cases items with
  | nil => exact .inr (.inl rfl)
  | cons item items => exact .inl rfl

theorem renderMembers_closes (members : List (String × Json)) (rest : List Symbol) :
    Closes (ofChars (renderMembers members) ++ rest) := by
  cases members with
  | nil => exact .inr (.inr rfl)
  | cons member members => exact .inl rfl

theorem length_render_pos {j : Json} (exact : j.IsExact) : 0 < j.render.length := by
  obtain ⟨c, text, written, -⟩ := render_opens exact
  rw [written]
  exact Nat.succ_pos _

/-- Two steps for every character are enough to follow a value to its end. -/
def Followed (j : Json) : Prop :=
  ∀ fuel rest, 2 * j.render.length ≤ fuel → Closes rest →
    nodeAt fuel (ofChars j.render ++ rest) = (j.tree, some rest)

theorem AllExact.mem {items : List Json} (exact : AllExact items) : ∀ j ∈ items, j.IsExact := by
  induction items with
  | nil => exact fun j member => absurd member List.not_mem_nil
  | cons item items ih =>
    intro j member
    rcases List.mem_cons.mp member with rfl | member
    · exact exact.1
    · exact ih exact.2 j member

theorem MembersExact.mem {members : List (String × Json)} (exact : MembersExact members) :
    ∀ m ∈ members, m.2.IsExact := by
  induction members with
  | nil => exact fun m member => absurd member List.not_mem_nil
  | cons first members ih =>
    intro m member
    rcases List.mem_cons.mp member with rfl | member
    · exact exact.1
    · exact ih exact.2 m member

theorem itemsAt_written {item : Json} {items : List Json}
    (followed : ∀ j ∈ item :: items, j.IsExact ∧ j.Followed) {fuel : Nat} (rest : List Symbol)
    (enough : 2 * (item.render ++ renderItems items).length ≤ fuel) :
    itemsAt fuel (ofChars (item.render ++ renderItems items) ++ rest) =
      (.item item.tree (itemTrees items), some rest) := by
  induction items generalizing item fuel with
  | nil =>
    rw [renderItems, List.length_append, List.length_singleton] at enough
    obtain ⟨fuel, rfl⟩ : ∃ less, fuel = less + 1 := ⟨fuel - 1, by omega⟩
    have first := (followed item List.mem_cons_self).2 fuel (ofChars (renderItems []) ++ rest)
      (by omega) (renderItems_closes [] rest)
    rw [ofChars_append, List.append_assoc]
    exact itemsAt_last first
  | cons next items ih =>
    simp only [renderItems, List.length_append, List.length_cons] at enough
    obtain ⟨fuel, rfl⟩ : ∃ less, fuel = less + 1 := ⟨fuel - 1, by omega⟩
    have first := (followed item List.mem_cons_self).2 fuel (ofChars (renderItems (next :: items)) ++ rest)
      (by omega) (renderItems_closes (next :: items) rest)
    have others := List.forall_mem_cons.mp followed |>.2
    have later := ih others (show 2 * (next.render ++ renderItems items).length ≤ fuel by
      rw [List.length_append]
      omega)
    obtain ⟨c, text, written, opens⟩ := render_opens (others next List.mem_cons_self).1
    have comma : ofChars (renderItems (next :: items)) ++ rest =
        some ',' :: some c :: (ofChars (text ++ renderItems items) ++ rest) := by
      rw [renderItems, written]
      rfl
    rw [written, List.cons_append, ofChars_cons, List.cons_append] at later
    rw [ofChars_append, List.append_assoc]
    rw [comma] at first ⊢
    rw [itemsAt_next opens first, later]
    rfl

theorem membersAt_written {key : String} {value : Json} {members : List (String × Json)}
    (followed : ∀ m ∈ (key, value) :: members, m.2.IsExact ∧ m.2.Followed) {fuel : Nat}
    (rest : List Symbol)
    (enough : 2 * (renderText key ++ ':' :: value.render ++ renderMembers members).length ≤ fuel) :
    membersAt fuel (ofChars (renderText key ++ ':' :: value.render ++ renderMembers members) ++ rest) =
      (.member (.ok key) value.tree (memberTrees members), some rest) := by
  induction members generalizing key value fuel with
  | nil =>
    simp only [List.length_append, List.length_cons] at enough
    obtain ⟨fuel, rfl⟩ : ∃ less, fuel = less + 1 := ⟨fuel - 1, by omega⟩
    have first := (followed _ List.mem_cons_self).2 fuel (ofChars (renderMembers []) ++ rest)
      (show 2 * value.render.length ≤ fuel by omega) (renderMembers_closes [] rest)
    simp only [ofChars_append, ofChars_cons, List.append_assoc, List.cons_append]
    exact membersAt_last key first
  | cons next members ih =>
    obtain ⟨name, second⟩ := next
    simp only [renderMembers, List.length_append, List.length_cons] at enough
    obtain ⟨fuel, rfl⟩ : ∃ less, fuel = less + 1 := ⟨fuel - 1, by omega⟩
    have first := (followed _ List.mem_cons_self).2 fuel
      (ofChars (renderMembers ((name, second) :: members)) ++ rest)
      (show 2 * value.render.length ≤ fuel by omega) (renderMembers_closes _ rest)
    have others := List.forall_mem_cons.mp followed |>.2
    have later := ih others (show
      2 * (renderText name ++ ':' :: second.render ++ renderMembers members).length ≤ fuel by
        simp only [List.length_append, List.length_cons]
        omega)
    have quoted := ofChars_renderText name (ofChars (':' :: second.render ++ renderMembers members) ++ rest)
    have comma : ofChars (renderMembers ((name, second) :: members)) ++ rest =
        some ',' :: (ofChars (renderText name) ++
          (ofChars (':' :: second.render ++ renderMembers members) ++ rest)) := by
      simp only [renderMembers, ofChars_append, ofChars_cons, List.append_assoc, List.cons_append]
    rw [List.append_assoc, ofChars_append, List.append_assoc, quoted] at later
    rw [quoted] at comma
    rw [List.append_assoc, ofChars_append, List.append_assoc, List.cons_append, ofChars_cons,
      List.cons_append, ofChars_append, List.append_assoc]
    rw [comma] at first ⊢
    rw [membersAt_next key first, later]
    rfl

/-- A value whose text is not empty is followed at the cost of one step at least. -/
theorem Followed.of_step {j : Json} (filled : 0 < j.render.length)
    (step : ∀ fuel rest, 2 * j.render.length ≤ fuel + 1 → Closes rest →
      nodeAt (fuel + 1) (ofChars j.render ++ rest) = (j.tree, some rest)) : j.Followed := by
  intro fuel rest enough closes
  obtain ⟨fuel, rfl⟩ : ∃ less, fuel = less + 1 := ⟨fuel - 1, by omega⟩
  exact step fuel rest enough closes

theorem followed_arr {items : List Json} (followed : ∀ j ∈ items, j.IsExact ∧ j.Followed) :
    (arr items).Followed := by
  cases items with
  | nil => exact .of_step (by decide) fun _ _ _ _ => rfl
  | cons item items =>
    refine .of_step (Nat.succ_pos _) fun fuel rest enough _ => ?_
    simp only [render, List.length_append, List.length_cons] at enough
    obtain ⟨c, text, written, opens⟩ := render_opens (followed item List.mem_cons_self).1
    have inside := itemsAt_written followed rest
      (show 2 * (item.render ++ renderItems items).length ≤ fuel by rw [List.length_append]; omega)
    change nodeAt (fuel + 1)
      (some '[' :: (ofChars (item.render ++ renderItems items) ++ rest)) = _
    rw [written, List.cons_append, ofChars_cons, List.cons_append] at inside ⊢
    rw [nodeAt_list opens, inside]
    rfl

theorem followed_obj {members : List (String × Json)}
    (followed : ∀ m ∈ members, m.2.IsExact ∧ m.2.Followed) : (obj members).Followed := by
  cases members with
  | nil => exact .of_step (by decide) fun _ _ _ _ => rfl
  | cons member members =>
    obtain ⟨key, value⟩ := member
    refine .of_step (Nat.succ_pos _) fun fuel rest enough _ => ?_
    simp only [render, List.length_append, List.length_cons] at enough
    have inside := membersAt_written followed rest (show
      2 * (renderText key ++ ':' :: value.render ++ renderMembers members).length ≤ fuel by
        simp only [List.length_append, List.length_cons]
        omega)
    change nodeAt (fuel + 1) (some '\x7b' ::
      (ofChars (renderText key ++ ':' :: value.render ++ renderMembers members) ++ rest)) = _
    rw [List.append_assoc, ofChars_append, List.append_assoc, ofChars_renderText] at inside ⊢
    rw [nodeAt_object, inside]
    rfl

theorem followed (j : Json) (exact : j.IsExact) : j.Followed :=
  match j with
  | .null => .of_step (length_render_pos exact) fun _ _ _ _ => rfl
  | .bool true => .of_step (length_render_pos exact) fun _ _ _ _ => rfl
  | .bool false => .of_step (length_render_pos exact) fun _ _ _ _ => rfl
  | .int _ => .of_step (length_render_pos exact) fun _ _ _ closes => nodeAt_number exact closes
  | .float _ => exact.elim
  | .str s => .of_step (length_render_pos exact) fun _ _ _ _ => nodeAt_string s
  | .arr items =>
    have all : AllExact items := exact
    followed_arr fun j member => ⟨all.mem j member, followed j (all.mem j member)⟩
  | .obj members =>
    have all : MembersExact members := exact
    followed_obj fun m member => ⟨all.mem m member, followed m.2 (all.mem m member)⟩
termination_by sizeOf j
decreasing_by
  · have smaller := List.sizeOf_lt_of_mem member
    simp only [Json.arr.sizeOf_spec]
    omega
  · have smaller := List.sizeOf_lt_of_mem member
    obtain ⟨key, value⟩ := m
    simp only [Json.obj.sizeOf_spec, Prod.mk.sizeOf_spec] at smaller ⊢
    omega

/-- The text of a value, with nothing behind it, has the tree of the value and nothing more. -/
theorem ofText_render {j : Json} (exact : j.IsExact) :
    Node.ofText (ofChars j.render) = (j.tree, some []) := by
  have read := followed j exact (2 * j.render.length + 2) [] (by omega) trivial
  have length : (ofChars j.render).length = j.render.length := List.length_map _
  rw [List.append_nil] at read
  rw [Node.ofText, length, read]

end ParishSite.Json
