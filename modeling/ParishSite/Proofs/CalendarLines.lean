import ParishSite.Content.Calendar

/-! Calendar text as its readers take it: lines end in a carriage return and a line feed, and a line that
starts with a space continues the one before it. What is written as a line is read as that line, however
it was folded. -/

namespace ParishSite.Text.Fold

theorem splitBytes_append (n : Nat) (text : List Char) :
    (splitBytes n text).1 ++ (splitBytes n text).2 = text := by
  induction text generalizing n with
  | nil => rfl
  | cons c text ih =>
    rw [splitBytes]
    split
    · exact congrArg (c :: ·) (ih _)
    · rfl

theorem pieces_flatten (text : List Char) (start next fuel : Nat) (left : List Char) :
    (pieces text start next fuel left).flatten = left := by
  induction fuel generalizing start next left with
  | zero => simp [pieces]
  | succ fuel ih =>
    rw [pieces]
    split
    · simp
    · exact (congrArg (_ ++ ·) (ih _ _ _)).trans (splitBytes_append _ _)

theorem fold_short {text : List Char} (short : Utf8.size text ≤ width) : fold text = text := by
  rw [fold]
  cases text with
  | nil => rfl
  | cons c text =>
    rw [List.length_cons, pieces, if_pos short]
    simp

theorem pieces_ne_nil (text : List Char) (start next fuel : Nat) (left : List Char) :
    pieces text start next fuel left ≠ [] := by
  cases fuel with
  | zero => simp [pieces]
  | succ fuel =>
    rw [pieces]
    split <;> simp

end ParishSite.Text.Fold

namespace ParishSite.Calendar

/-- The lines of a text. What stands behind the last end of a line is a line too. -/
def splitLines : List Char → List (List Char)
  | [] => [[]]
  | '\r' :: '\n' :: rest => [] :: splitLines rest
  | c :: rest => (splitLines rest).modifyHead (c :: ·)

/-- The lines from one on, together with what continues them. -/
def joined (line : List Char) : List (List Char) → List (List Char)
  | [] => [line]
  | (' ' :: more) :: rest => joined (line ++ more) rest
  | next :: rest => line :: joined next rest

def contentLines (text : List Char) : List (List Char) :=
  match splitLines text with
  | [] => []
  | line :: rest => joined line rest

/-- The character that a backslash and another character stand for. -/
def escaped? (c : Char) : Option Char :=
  if c = 'n' ∨ c = 'N' then some '\n'
  else if c = '\\' ∨ c = ',' ∨ c = ';' then some c
  else none

/-- The text that a text value stands for, if the value is one. -/
def unescape? : List Char → Option (List Char)
  | [] => some []
  | '\\' :: c :: rest => do
    let d ← escaped? c
    let text ← unescape? rest
    some (d :: text)
  | c :: rest => do
    if c = '\\' ∨ c = ',' ∨ c = ';' ∨ c = '\n' then none
    let text ← unescape? rest
    some (c :: text)

theorem unescape?_plain {c : Char} (plain : ¬ (c = '\\' ∨ c = ',' ∨ c = ';' ∨ c = '\n'))
    (rest : List Char) : unescape? (c :: rest) = (unescape? rest).map (c :: ·) := by
  rw [unescape?]
  · simp only [plain, if_false]
    cases unescape? rest <;> rfl
  · rintro d more rfl
    exact absurd (.inl rfl) plain

theorem unescape?_escaped {c d : Char} (stands : escaped? c = some d) (rest : List Char) :
    unescape? ('\\' :: c :: rest) = (unescape? rest).map (d :: ·) := by
  rw [unescape?, stands]
  cases unescape? rest <;> rfl

/-- A character is written as it is, or as a backslash and the mark that stands for it. -/
theorem escapeText_cons (c : Char) (s : List Char) :
    (¬ (c = '\\' ∨ c = ',' ∨ c = ';' ∨ c = '\n') ∧ escapeText (c :: s) = c :: escapeText s) ∨
    ∃ mark, mark ≠ '\n' ∧ escaped? mark = some c ∧ escapeText (c :: s) = '\\' :: mark :: escapeText s := by
  have parts : escapeText (c :: s) = escapeText [c] ++ escapeText s := by simp [escapeText]
  rw [parts]
  by_cases special : c = '\\' ∨ c = ',' ∨ c = ';' ∨ c = '\n'
  · right
    rcases special with rfl | rfl | rfl | rfl <;> exact ⟨_, by decide, rfl, rfl⟩
  · left
    refine ⟨special, ?_⟩
    simp only [not_or] at special
    simp [escapeText, special]

theorem unescape?_escapeText (s : List Char) : unescape? (escapeText s) = some s := by
  induction s with
  | nil => rfl
  | cons c s ih =>
    obtain ⟨plain, written⟩ | ⟨mark, -, stands, written⟩ := escapeText_cons c s
    · rw [written, unescape?_plain plain, ih]
      rfl
    · rw [written, unescape?_escaped stands, ih]
      rfl

theorem escapeText_newline (s : List Char) : '\n' ∉ escapeText s := by
  induction s with
  | nil => exact List.not_mem_nil
  | cons c s ih =>
    obtain ⟨plain, written⟩ | ⟨mark, other, -, written⟩ := escapeText_cons c s
    · rw [written, List.mem_cons, not_or]
      exact ⟨fun same => plain (.inr (.inr (.inr same.symm))), ih⟩
    · rw [written, List.mem_cons, List.mem_cons, not_or, not_or]
      exact ⟨by decide, other.symm, ih⟩

def OneLine (s : List Char) : Prop := ¬ endOfLine <:+: s

theorem OneLine.of_newline {s : List Char} (absent : '\n' ∉ s) : OneLine s := by
  intro inside
  exact absent (inside.subset (by simp [endOfLine]))

theorem OneLine.of_return {s : List Char} (absent : '\r' ∉ s) : OneLine s := by
  intro inside
  exact absent (inside.subset (by simp [endOfLine]))

theorem OneLine.tail {c : Char} {s : List Char} (one : OneLine (c :: s)) : OneLine s :=
  fun inside => one (inside.trans (List.suffix_cons c s).isInfix)

theorem OneLine.infix {s part : List Char} (one : OneLine s) (inside : part <:+: s) : OneLine part :=
  fun hit => one (hit.trans inside)

theorem OneLine.cons {c : Char} {s : List Char} (one : OneLine s) (other : c ≠ '\r') : OneLine (c :: s) := by
  intro inside
  rcases List.infix_cons_iff.mp inside with first | later
  · exact other (List.cons_prefix_cons.mp first).1.symm
  · exact one later

theorem OneLine.append {a s : List Char} (one : OneLine s) (other : '\r' ∉ a) : OneLine (a ++ s) := by
  induction a with
  | nil => exact one
  | cons c a ih =>
    obtain ⟨first, rest⟩ := not_or.mp (fun either => other (List.mem_cons.mpr either))
    exact (ih rest).cons (Ne.symm first)

theorem splitLines_cons {c : Char} {text : List Char} (inside : ¬ (c = '\r' ∧ text.head? = some '\n')) :
    splitLines (c :: text) = (splitLines text).modifyHead (c :: ·) := by
  rw [splitLines]
  rintro rest rfl rfl
  exact inside ⟨rfl, rfl⟩

theorem splitLines_some (text : List Char) : ∃ first more, splitLines text = first :: more := by
  induction text using splitLines.induct with
  | case1 | case2 => exact ⟨_, _, rfl⟩
  | case3 c text inside ih =>
    obtain ⟨first, more, split⟩ := ih
    exact ⟨c :: first, more, by rw [splitLines, split, List.modifyHead_cons]; exact inside⟩

theorem splitLines_append (text rest : List Char) :
    splitLines (text ++ (endOfLine ++ rest)) = splitLines text ++ splitLines rest := by
  -- A carriage return at the end of the text stays in its line: what follows it is another one.
  induction text using splitLines.induct with
  | case1 => rfl
  | case2 text ih => exact congrArg ([] :: ·) ih
  | case3 c text inside ih =>
    obtain ⟨first, more, split⟩ := splitLines_some text
    have here : ¬ (c = '\r' ∧ text.head? = some '\n') := by
      rintro ⟨ends, next⟩
      obtain ⟨_, rfl⟩ := List.head?_eq_some_iff.mp next
      exact inside _ ends rfl
    have behind : ¬ (c = '\r' ∧ (text ++ (endOfLine ++ rest)).head? = some '\n') := by
      cases text with
      | nil => exact fun both => absurd both.2 (by simp [endOfLine])
      | cons d text => exact here
    rw [List.cons_append, splitLines_cons behind, splitLines_cons here, ih, split]
    rfl

theorem splitLines_line {line : List Char} (one : OneLine line) : splitLines line = [line] := by
  induction line with
  | nil => rfl
  | cons c line ih =>
    rw [splitLines_cons, ih one.tail, List.modifyHead_cons]
    rintro ⟨rfl, next⟩
    obtain ⟨rest, rfl⟩ := List.head?_eq_some_iff.mp next
    exact one (List.prefix_append endOfLine rest).isInfix

/-- The pieces of a folded line are lines that start with a space, except for the first. -/
theorem splitLines_pieces {first : List Char} {more : List (List Char)}
    (one : OneLine (first ++ more.flatten)) :
    splitLines (['\r', '\n', ' '].intercalate (first :: more)) = first :: more.map (' ' :: ·) := by
  induction more generalizing first with
  | nil =>
    rw [List.flatten_nil, List.append_nil] at one
    simpa [List.intercalate] using splitLines_line one
  | cons piece more ih =>
    have whole : ['\r', '\n', ' '].intercalate (first :: piece :: more) =
        first ++ (endOfLine ++ ' ' :: ['\r', '\n', ' '].intercalate (piece :: more)) := by
      simp [List.intercalate, endOfLine]
    rw [List.flatten_cons] at one
    have here : OneLine first := one.infix (List.prefix_append _ _).isInfix
    have later : OneLine (piece ++ more.flatten) := one.infix (List.suffix_append _ _).isInfix
    rw [whole, splitLines_append, splitLines_line here, splitLines_cons (by rintro ⟨⟨⟩, _⟩), ih later]
    rfl

/-- A text that does not continue the line before it. -/
def Fresh (text : List Char) : Prop := text.head? ≠ some ' '

theorem Fresh.append {first second : List Char} (fresh : Fresh first) (behind : Fresh second) :
    Fresh (first ++ second) := by
  cases first with
  | nil => exact behind
  | cons c first => exact fresh

theorem fresh_endOfLine : Fresh endOfLine := by
  unfold Fresh endOfLine
  decide

theorem fresh_fold {line : List Char} (fresh : Fresh line) : Fresh (Text.Fold.fold line) := by
  have whole := Text.Fold.pieces_flatten line 0 Text.Fold.width line.length line
  unfold Text.Fold.fold
  generalize Text.Fold.pieces line 0 Text.Fold.width line.length line = cut at whole ⊢
  subst whole
  match cut with
  | [] => exact nofun
  | [first] => simpa [List.intercalate] using fresh
  | [] :: piece :: more => exact show some '\r' ≠ some ' ' by decide
  | (c :: first) :: piece :: more => exact fresh

theorem splitLines_fresh {text : List Char} (fresh : Fresh text) :
    ∃ first more, splitLines text = first :: more ∧ Fresh first := by
  obtain ⟨first, more, split⟩ := splitLines_some text
  refine ⟨first, more, split, ?_⟩
  cases text with
  | nil =>
    cases split
    exact fresh
  | cons c text =>
    by_cases ends : c = '\r' ∧ text.head? = some '\n'
    · obtain ⟨rfl, next⟩ := ends
      obtain ⟨rest, rfl⟩ := List.head?_eq_some_iff.mp next
      cases split
      exact nofun
    · obtain ⟨line, rest, later⟩ := splitLines_some text
      rw [splitLines_cons ends, later] at split
      cases split
      exact fresh

theorem joined_continued (line : List Char) (more : List (List Char)) :
    joined line (more.map (' ' :: ·)) = [line ++ more.flatten] := by
  induction more generalizing line with
  | nil => simp [joined]
  | cons piece more ih => rw [List.map_cons, joined, ih, List.flatten_cons, List.append_assoc]

theorem joined_append (line : List Char) (lines : List (List Char)) {rest : List Char} (fresh : Fresh rest) :
    joined line (lines ++ splitLines rest) = joined line lines ++ contentLines rest := by
  induction line, lines using joined.induct with
  | case1 line =>
    obtain ⟨first, more, split, start⟩ := splitLines_fresh fresh
    rw [List.nil_append, contentLines, split]
    change joined line (first :: more) = line :: joined first more
    rw [joined]
    rintro text rfl
    exact start rfl
  | case2 line more lines ih => exact ih
  | case3 line next lines other ih =>
    rw [List.cons_append, joined, joined, ih]
    · rfl
    · exact other
    · exact other

/-- What is written on a line of its own does not touch the lines behind it. -/
theorem contentLines_append (text : List Char) {rest : List Char} (fresh : Fresh rest) :
    contentLines (text ++ (endOfLine ++ rest)) = contentLines text ++ contentLines rest := by
  obtain ⟨first, more, split⟩ := splitLines_some text
  have whole := splitLines_append text rest
  rw [split] at whole
  rw [contentLines, whole, contentLines, split]
  exact joined_append first more fresh

theorem contentLines_line {line : List Char} (one : OneLine line) : contentLines line = [line] := by
  rw [contentLines, splitLines_line one]
  rfl

theorem contentLines_fold {line : List Char} (one : OneLine line) :
    contentLines (Text.Fold.fold line) = [line] := by
  have whole := Text.Fold.pieces_flatten line 0 Text.Fold.width line.length line
  unfold Text.Fold.fold
  cases cut : Text.Fold.pieces line 0 Text.Fold.width line.length line with
  | nil => exact absurd cut (Text.Fold.pieces_ne_nil _ _ _ _ _)
  | cons first more =>
    rw [cut, List.flatten_cons] at whole
    rw [← whole] at one
    rw [contentLines, splitLines_pieces one]
    exact (joined_continued first more).trans (congrArg ([·]) whole)

end ParishSite.Calendar
