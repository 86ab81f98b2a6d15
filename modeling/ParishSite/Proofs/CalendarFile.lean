import Mathlib.Data.List.Forall2
import ParishSite.Proofs.CalendarLines
import ParishSite.Proofs.FormRoundTrip
import ParishSite.Proofs.WrittenInstants

/-! A calendar file read back: it holds every event that was written, in their order, with each text and
each time. One line holds the name of the calendar as it is, so the file is one calendar with those events
and no others only if the name fits on a line. -/

namespace ParishSite.Calendar

open Time (Instant Date)
open Time.Rfc3339 (padded yearText writeCompact)

def number? (ds : List Char) : Option Nat :=
  if ds ≠ [] ∧ ds.all Char.isDigit then some (Nat.ofDigitChars 10 ds 0) else none

def year? : List Char → Option Int
  | '-' :: ds => (number? ds).map fun n => -(n : Int)
  | '+' :: ds => (number? ds).map fun n => (n : Int)
  | ds => (number? ds).map fun n => (n : Int)

/-- The second that a time without separators names, counted like those of instants. A sixtieth second
is the one after its minute. -/
def second? (text : List Char) : Option Int :=
  match text.reverse with
  | 'Z' :: s₂ :: s₁ :: n₂ :: n₁ :: h₂ :: h₁ :: 'T' :: d₂ :: d₁ :: m₂ :: m₁ :: year => do
    let date : Date := ⟨← year? year.reverse, ← number? [m₁, m₂], ← number? [d₁, d₂]⟩
    let hour ← number? [h₁, h₂]
    let minute ← number? [n₁, n₂]
    let second ← number? [s₁, s₂]
    if date.IsValid ∧ hour < 24 ∧ minute < 60 ∧ second ≤ 60 then
      some (date.toDays * 86400 + hour * 3600 + minute * 60 + second)
    else none
  | _ => none

def shownSecond (t : Instant) : Int := t.seconds + if t.isLeap then 1 else 0

theorem number?_padded (width n : Nat) : number? (padded width n) = some n := by
  have digits : (padded width n).all Char.isDigit = true :=
    List.all_eq_true.mpr (Time.Rfc3339.padded_digits width n)
  rw [number?, if_pos ⟨Time.Rfc3339.padded_ne_nil width n, digits⟩, Time.Rfc3339.padded_value]

theorem number?_two {n : Nat} (small : n < 100) :
    ∃ a b, padded 2 n = [a, b] ∧ number? [a, b] = some n := by
  have length := Time.Rfc3339.padded_length (show 0 < 2 by decide) small
  obtain ⟨a, b, text⟩ := List.length_eq_two.mp length
  exact ⟨a, b, text, text ▸ number?_padded 2 n⟩

theorem year?_plain {c : Char} {ds : List Char} (digit : c.isDigit = true) :
    year? (c :: ds) = (number? (c :: ds)).map fun n => (n : Int) := by
  unfold year?
  split
  · next sign => cases sign; cases digit
  · next sign => cases sign; cases digit
  · rfl

theorem year?_yearText (y : Int) : year? (yearText y) = some y := by
  unfold yearText
  split
  · next plain =>
    have read := number?_padded 4 y.toNat
    have digits := Time.Rfc3339.padded_digits 4 y.toNat
    cases text : padded 4 y.toNat with
    | nil => exact absurd text (Time.Rfc3339.padded_ne_nil 4 _)
    | cons c ds =>
      rw [text] at read digits
      rw [year?_plain (digits c List.mem_cons_self), read]
      exact congrArg some (Int.toNat_of_nonneg plain.1)
  · split
    · next negative =>
      have value : -(y.natAbs : Int) = y := by omega
      rw [year?, number?_padded]
      exact congrArg some value
    · have value : (y.natAbs : Int) = y := by omega
      rw [year?, number?_padded]
      exact congrArg some value

theorem second?_writeCompact (t : Instant) : second? (writeCompact t).toList = some (shownSecond t) := by
  obtain ⟨firstMonth, lastMonth, firstDay, lastDay⟩ := t.date_isValid
  have days : t.date.day ≤ 31 := Nat.le_trans lastDay (Date.daysInMonth_le _ _)
  have hours := t.hour_lt
  have minutes := t.minute_lt
  have seconds := t.second_le
  obtain ⟨m₁, m₂, monthText, month⟩ := number?_two (show t.date.month < 100 by omega)
  obtain ⟨d₁, d₂, dayText, day⟩ := number?_two (show t.date.day < 100 by omega)
  obtain ⟨h₁, h₂, hourText, hour⟩ := number?_two (show t.hour < 100 by omega)
  obtain ⟨n₁, n₂, minuteText, minute⟩ := number?_two (show t.minute < 100 by omega)
  obtain ⟨s₁, s₂, secondText, second⟩ := number?_two (show t.second < 100 by omega)
  have reversed : (writeCompact t).toList.reverse =
      'Z' :: s₂ :: s₁ :: n₂ :: n₁ :: h₂ :: h₁ :: 'T' :: d₂ :: d₁ :: m₂ :: m₁ ::
        (yearText t.date.year).reverse := by
    simp [writeCompact, monthText, dayText, hourText, minuteText, secondText]
  have valid : t.date.IsValid := t.date_isValid
  have count : t.date.toDays * 86400 + t.hour * 3600 + t.minute * 60 + t.second = shownSecond t := by
    have clock := t.hour_minute
    rw [t.toDays_date, shownSecond]
    cases leap : t.isLeap with
    | true =>
      obtain ⟨sixty, last, -⟩ := t.leap_shown leap
      simp only [sixty, if_true]
      omega
    | false =>
      obtain ⟨shown, -⟩ := t.ordinary_shown leap
      simp only [Bool.false_eq_true, if_false]
      omega
  rw [second?, reversed]
  simp only [List.reverse_reverse, year?_yearText, month, day, hour, minute, second, Option.bind_eq_bind,
    Option.bind_some]
  rw [if_pos ⟨valid, hours, minutes, seconds⟩, count]

theorem writeCompact_oneLine (t : Instant) : OneLine (writeCompact t).toList := by
  have digits (n : Nat) : Text.Unbroken (padded 2 n) := Time.Rfc3339.padded_unbroken 2 n
  have unbroken : Text.Unbroken (writeCompact t).toList := by
    rw [writeCompact, String.toList_ofList]
    exact ((((((Time.Rfc3339.yearText_unbroken _).append (digits _)).append (digits _)).append
      (.cons rfl (digits _))).append (digits _)).append (digits _)).append (.of_all rfl)
  exact .of_newline fun member => absurd (unbroken _ member) (by decide)

abbrev Property := String × List Char

/-- A line cut at its first colon. -/
def propertyOf (line : List Char) : Property :=
  (String.ofList (line.takeWhile (· ≠ ':')), (line.dropWhile (· ≠ ':')).tail)

def value? (name : String) (properties : List Property) : Option (List Char) :=
  (properties.find? fun (n, _) => n = name).map (·.2)

def text? (name : String) (properties : List Property) : Option String :=
  ((value? name properties).bind unescape?).map String.ofList

def instant? (name : String) (properties : List Property) : Option Int :=
  (value? name properties).bind second?

def lineOf (p : Property) : List Char := p.1.toList ++ ':' :: p.2

def IsName (name : String) : Prop :=
  '\r' ∉ name.toList ∧ ':' ∉ name.toList ∧ Fresh name.toList

theorem propertyOf_lineOf {p : Property} (named : IsName p.1) : propertyOf (lineOf p) = p := by
  obtain ⟨taken, dropped⟩ := Web.Form.takeWhile_cut named.2.1 p.2
  rw [propertyOf, lineOf, taken, dropped, List.tail_cons, String.ofList_toList]

theorem fresh_lineOf {name : String} (named : IsName name) (value : List Char) :
    Fresh (lineOf (name, value)) :=
  named.2.2.append (show some ':' ≠ some ' ' by decide)

theorem oneLine_lineOf {name : String} (named : IsName name) {value : List Char} (one : OneLine value) :
    OneLine (lineOf (name, value)) :=
  (one.cons (by decide)).append named.1

/-- A text is read as some properties, whatever is written behind it that does not continue the last. -/
structure Tells (text : List Char) (properties : List Property) : Prop where
  fresh : Fresh text
  reads : ∀ rest, Fresh rest →
    (contentLines (text ++ rest)).map propertyOf = properties ++ (contentLines rest).map propertyOf

namespace Tells

theorem nil : Tells [] [] := ⟨nofun, fun _ _ => rfl⟩

/-- A text with the end of a line behind it is read by itself. -/
theorem of_fresh {text : List Char} (fresh : Fresh text) :
    Tells (text ++ endOfLine) ((contentLines text).map propertyOf) where
  fresh := fresh.append fresh_endOfLine
  reads rest behind := by rw [List.append_assoc, contentLines_append text behind, List.map_append]

theorem of_line {text : List Char} {p : Property} (named : IsName p.1) (fresh : Fresh text)
    (line : contentLines text = [lineOf p]) : Tells (text ++ endOfLine) [p] := by
  have tells := of_fresh fresh
  rwa [line, List.map_singleton, propertyOf_lineOf named] at tells

theorem append {first second : List Char} {properties more : List Property}
    (tells : Tells first properties) (others : Tells second more) :
    Tells (first ++ second) (properties ++ more) where
  fresh := tells.fresh.append others.fresh
  reads rest fresh := by
    rw [List.append_assoc, tells.reads _ (others.fresh.append fresh), others.reads rest fresh,
      List.append_assoc]

theorem flatMap {α : Type} {write : α → List Char} {properties : α → List Property} {xs : List α}
    (each : ∀ x ∈ xs, Tells (write x) (properties x)) :
    Tells (xs.flatMap write) (xs.flatMap properties) := by
  induction xs with
  | nil => exact nil
  | cons x xs ih =>
    rw [List.flatMap_cons, List.flatMap_cons]
    exact (each x List.mem_cons_self).append (ih fun y member => each y (List.mem_cons_of_mem x member))

end Tells

section
variable {name : String} (named : IsName name)
include named

theorem tells_plainLine {line : String} {value : List Char} (written : line.toList = lineOf (name, value))
    (one : OneLine value) : Tells (plainLine line) [(name, value)] := by
  rw [plainLine, written]
  exact .of_line named (fresh_lineOf named value) (contentLines_line (oneLine_lineOf named one))

theorem tells_property {value : List Char} (one : OneLine value) :
    Tells (property name value) [(name, value)] :=
  .of_line named (fresh_fold (fresh_lineOf named value)) (contentLines_fold (oneLine_lineOf named one))

theorem tells_textProperty (text : String) :
    Tells (textProperty name text) [(name, escapeText text.toList)] :=
  tells_property named (.of_newline (escapeText_newline _))

theorem tells_instantProperty (t : Instant) :
    Tells (instantProperty name t) [(name, (writeCompact t).toList)] :=
  tells_property named (writeCompact_oneLine t)

/-- The property of a text that is left out when there is nothing to tell. -/
def givenProperties (name : String) : Option String → List Property
  | some text => if text = "" then [] else [(name, escapeText text.toList)]
  | none => []

theorem tells_givenProperty (text : Option String) :
    Tells (givenProperty name text) (givenProperties name text) := by
  cases text with
  | none => exact .nil
  | some text =>
    rw [givenProperty, givenProperties]
    split
    · exact .nil
    · exact tells_textProperty named text

end

/-- The properties of an event in the order in which they are written. -/
def eventProperties (now : Instant) (e : Event) : List Property :=
  [("DTSTAMP", (writeCompact now).toList)] ++ givenProperties "DESCRIPTION" e.description ++
    [("DTEND", (writeCompact e.finish).toList)] ++ [("DTSTART", (writeCompact e.start).toList)] ++
    givenProperties "LOCATION" e.location ++ [("SUMMARY", escapeText e.title.toList)] ++
    [("UID", escapeText e.id.toList)]

def start (component : String) : Property := ("BEGIN", component.toList)

def finish (component : String) : Property := ("END", component.toList)

theorem isName : ∀ name ∈ ["BEGIN", "END", "DTSTAMP", "DESCRIPTION", "DTEND", "DTSTART", "LOCATION",
    "SUMMARY", "UID", "VERSION", "PRODID", "CALSCALE", "NAME", "X-WR-CALNAME"], IsName name := by
  unfold IsName Fresh
  decide

def bounded (event : List Property) : List Property := [start "VEVENT"] ++ event ++ [finish "VEVENT"]

theorem tells_eventLines (now : Instant) (e : Event) :
    Tells (eventLines now e) (bounded (eventProperties now e)) := by
  have one : OneLine "VEVENT".toList := .of_newline (by decide)
  have first : Tells (plainLine "BEGIN:VEVENT") [start "VEVENT"] :=
    tells_plainLine (isName "BEGIN" (by decide)) (by decide) one
  have last : Tells (plainLine "END:VEVENT") [finish "VEVENT"] :=
    tells_plainLine (isName "END" (by decide)) (by decide) one
  have stamp : Tells (plainLine ("DTSTAMP:" ++ writeCompact now)) [("DTSTAMP", (writeCompact now).toList)] :=
    tells_plainLine (isName "DTSTAMP" (by decide)) (by simp [lineOf]) (writeCompact_oneLine now)
  have whole := first
    |>.append stamp
    |>.append (tells_givenProperty (isName "DESCRIPTION" (by decide)) e.description)
    |>.append (tells_instantProperty (isName "DTEND" (by decide)) e.finish)
    |>.append (tells_instantProperty (isName "DTSTART" (by decide)) e.start)
    |>.append (tells_givenProperty (isName "LOCATION" (by decide)) e.location)
    |>.append (tells_textProperty (isName "SUMMARY" (by decide)) e.title)
    |>.append (tells_textProperty (isName "UID" (by decide)) e.id)
    |>.append last
  simpa only [eventLines, bounded, eventProperties, List.append_assoc] using whole

/-- A calendar: its own properties, and those of each of its events. -/
structure Document where
  properties : List Property
  events : List (List Property)

/-- Reads on within a calendar, and within one of its events if there is some of it already. Nothing may
follow the end of the calendar but the end of its line. -/
def readOn (document : Document) : Option (List Property) → List Property → Option Document
  | _, [] => none
  | none, p :: rest =>
    if p = start "VEVENT" then readOn document (some []) rest
    else if p = finish "VCALENDAR" then if rest = [("", [])] then some document else none
    else if p.1 = "BEGIN" ∨ p.1 = "END" then none
    else readOn { document with properties := document.properties ++ [p] } none rest
  | some event, p :: rest =>
    if p = finish "VEVENT" then
      readOn { document with events := document.events ++ [event] } none rest
    else if p.1 = "BEGIN" ∨ p.1 = "END" then none
    else readOn document (some (event ++ [p])) rest

def readFile (text : List Char) : Option Document :=
  match (contentLines text).map propertyOf with
  | [] => none
  | p :: rest => if p = start "VCALENDAR" then readOn ⟨[], []⟩ none rest else none

def Inner (properties : List Property) : Prop := ∀ p ∈ properties, ¬ (p.1 = "BEGIN" ∨ p.1 = "END")

theorem Inner.append {first second : List Property} (inner : Inner first) (others : Inner second) :
    Inner (first ++ second) :=
  List.forall_mem_append.mpr ⟨inner, others⟩

theorem Inner.other {p : Property} {component : String} (inner : ¬ (p.1 = "BEGIN" ∨ p.1 = "END")) :
    p ≠ start component ∧ p ≠ finish component := by
  constructor
  · rintro rfl
    exact inner (.inl rfl)
  · rintro rfl
    exact inner (.inr rfl)

section
variable (document : Document) (rest : List Property)

theorem readOn_properties {properties : List Property} (inner : Inner properties) :
    readOn document none (properties ++ rest) =
      readOn { document with properties := document.properties ++ properties } none rest := by
  induction properties generalizing document with
  | nil => simp
  | cons p properties ih =>
    obtain ⟨first, later⟩ := List.forall_mem_cons.mp inner
    rw [List.cons_append, readOn, if_neg (Inner.other first).1, if_neg (Inner.other first).2, if_neg first,
      ih _ later, List.append_assoc]
    rfl

theorem readOn_within (event : List Property) {properties : List Property} (inner : Inner properties) :
    readOn document (some event) (properties ++ finish "VEVENT" :: rest) =
      readOn { document with events := document.events ++ [event ++ properties] } none rest := by
  induction properties generalizing event with
  | nil => rw [List.nil_append, readOn, if_pos rfl, List.append_nil]
  | cons p properties ih =>
    obtain ⟨first, later⟩ := List.forall_mem_cons.mp inner
    rw [List.cons_append, readOn, if_neg (Inner.other first).2, if_neg first, ih _ later,
      List.append_assoc]
    rfl

theorem readOn_event {properties : List Property} (inner : Inner properties) :
    readOn document none (bounded properties ++ rest) =
      readOn { document with events := document.events ++ [properties] } none rest := by
  have within := readOn_within document rest [] inner
  rw [bounded, List.append_assoc, List.append_assoc, List.singleton_append, readOn, if_pos rfl]
  exact within

theorem readOn_events {events : List (List Property)} (inner : ∀ event ∈ events, Inner event) :
    readOn document none (events.flatMap bounded ++ rest) =
      readOn { document with events := document.events ++ events } none rest := by
  induction events generalizing document with
  | nil => simp
  | cons event events ih =>
    obtain ⟨first, later⟩ := List.forall_mem_cons.mp inner
    rw [List.flatMap_cons, List.append_assoc, readOn_event _ _ first, ih _ later, List.append_assoc]
    rfl

end

theorem inner_givenProperties {name : String} (other : ¬ (name = "BEGIN" ∨ name = "END"))
    (text : Option String) : Inner (givenProperties name text) := by
  intro p member
  cases text with
  | none => cases member
  | some text =>
    rw [givenProperties] at member
    split at member
    · cases member
    · rw [List.mem_singleton.mp member]
      exact other

theorem inner_single {name : String} (other : ¬ (name = "BEGIN" ∨ name = "END")) (value : List Char) :
    Inner [(name, value)] := by
  intro p member
  rwa [List.mem_singleton.mp member]

theorem inner_eventProperties (now : Instant) (e : Event) : Inner (eventProperties now e) :=
  inner_single (by decide) _
    |>.append (inner_givenProperties (by decide) _)
    |>.append (inner_single (by decide) _)
    |>.append (inner_single (by decide) _)
    |>.append (inner_givenProperties (by decide) _)
    |>.append (inner_single (by decide) _)
    |>.append (inner_single (by decide) _)

/-- What stands in a file before the name of its calendar. -/
def standardProperties : List Property :=
  [("VERSION", "2.0".toList), ("PRODID", "ICALENDAR-RS".toList), ("CALSCALE", "GREGORIAN".toList)]

theorem tells_standard : ∀ p ∈ standardProperties, Tells (property p.1 p.2) [p] := by
  have plain : ∀ p ∈ standardProperties, IsName p.1 ∧ '\n' ∉ p.2 := by
    unfold IsName Fresh
    decide
  intro p member
  obtain ⟨named, absent⟩ := plain p member
  exact tells_property named (.of_newline absent)

/-- What the line with the plain name of a calendar is read as. -/
def nameProperties (name : String) : List Property :=
  (contentLines (Text.Fold.fold (lineOf ("NAME", name.toList)))).map propertyOf

theorem nameProperties_oneLine {name : String} (one : OneLine name.toList) :
    nameProperties name = [("NAME", name.toList)] := by
  have named := isName "NAME" (by decide)
  rw [nameProperties, contentLines_fold (oneLine_lineOf named one), List.map_singleton,
    propertyOf_lineOf named]

def ownProperties (name : String) : List Property :=
  standardProperties ++ nameProperties name ++ [("X-WR-CALNAME", escapeText name.toList)]

theorem tells_file (name : String) (now : Instant) {events : List Event} (filled : events ≠ []) :
    Tells (file name now events) ([start "VCALENDAR"] ++ ownProperties name ++
      (events.map (eventProperties now)).flatMap bounded ++ [finish "VCALENDAR"]) := by
  have one : OneLine "VCALENDAR".toList := .of_newline (by decide)
  have first : Tells (plainLine "BEGIN:VCALENDAR") [start "VCALENDAR"] :=
    tells_plainLine (isName "BEGIN" (by decide)) (by decide) one
  have last : Tells (plainLine "END:VCALENDAR") [finish "VCALENDAR"] :=
    tells_plainLine (isName "END" (by decide)) (by decide) one
  have named : Tells (property "NAME" name.toList) (nameProperties name) :=
    .of_fresh (fresh_fold (fresh_lineOf (isName "NAME" (by decide)) name.toList))
  have written : Tells (events.flatMap (eventLines now))
      (events.flatMap fun e => bounded (eventProperties now e)) :=
    .flatMap fun e _ => tells_eventLines now e
  have whole := first
    |>.append (tells_standard ("VERSION", "2.0".toList) (by decide))
    |>.append (tells_standard ("PRODID", "ICALENDAR-RS".toList) (by decide))
    |>.append (tells_standard ("CALSCALE", "GREGORIAN".toList) (by decide))
    |>.append named
    |>.append (tells_textProperty (isName "X-WR-CALNAME" (by decide)) name)
    |>.append written
    |>.append last
  rw [file, if_neg (by simpa using filled)]
  simpa only [ownProperties, standardProperties, List.flatMap_map, List.append_assoc, List.cons_append,
    List.nil_append] using whole

theorem file_properties (name : String) (now : Instant) {events : List Event} (filled : events ≠ []) :
    (contentLines (file name now events)).map propertyOf =
      [start "VCALENDAR"] ++ ownProperties name ++ (events.map (eventProperties now)).flatMap bounded ++
        [finish "VCALENDAR"] ++ [("", [])] := by
  have read := (tells_file name now filled).reads [] nofun
  rwa [List.append_nil] at read

theorem readOn_finish (document : Document) :
    readOn document none ([finish "VCALENDAR"] ++ [("", [])]) = some document := by
  rw [List.singleton_append, readOn, if_neg (by decide), if_pos rfl, if_pos rfl]

/-- An event of a calendar shows an event of the church: all its texts and times, and nothing else. -/
structure Shows (properties : List Property) (e : Event) : Prop where
  names : properties.map (·.1) =
    ["DTSTAMP"] ++ (if e.description.getD "" = "" then [] else ["DESCRIPTION"]) ++ ["DTEND", "DTSTART"] ++
      (if e.location.getD "" = "" then [] else ["LOCATION"]) ++ ["SUMMARY", "UID"]
  id : text? "UID" properties = some e.id
  title : text? "SUMMARY" properties = some e.title
  description : text? "DESCRIPTION" properties = e.description.filter (· ≠ "")
  location : text? "LOCATION" properties = e.location.filter (· ≠ "")
  start : instant? "DTSTART" properties = some (shownSecond e.start)
  finish : instant? "DTEND" properties = some (shownSecond e.finish)

theorem givenProperties_cases (name : String) (text : Option String) :
    (text.getD "" = "" ∧ text.filter (· ≠ "") = none ∧ givenProperties name text = []) ∨
    ∃ s, s ≠ "" ∧ text = some s ∧ givenProperties name text = [(name, escapeText s.toList)] := by
  cases text with
  | none => exact .inl ⟨rfl, rfl, rfl⟩
  | some s =>
    by_cases empty : s = ""
    · subst empty
      exact .inl ⟨rfl, by decide, rfl⟩
    · exact .inr ⟨s, empty, rfl, by rw [givenProperties, if_neg empty]⟩

theorem value?_nil (name : String) : value? name [] = none := rfl

theorem value?_cons (name other : String) (value : List Char) (rest : List Property) :
    value? name ((other, value) :: rest) = if other = name then some value else value? name rest := by
  by_cases same : other = name <;> simp [value?, same]

theorem value?_given (name other : String) (text : Option String) (rest : List Property) :
    value? name (givenProperties other text ++ rest) =
      (if other = name then (text.filter (· ≠ "")).map (escapeText ·.toList) else none).or
        (value? name rest) := by
  obtain ⟨-, untold, nothing⟩ | ⟨s, filled, rfl, single⟩ := givenProperties_cases other text
  · rw [nothing, untold]
    by_cases same : other = name <;> simp
  · have told : (some s).filter (· ≠ "") = some s := Option.filter_some_pos (by simpa using filled)
    rw [single, told, List.singleton_append, value?_cons]
    by_cases same : other = name <;> simp [same]

theorem names_given (name : String) (text : Option String) :
    (givenProperties name text).map (·.1) = if text.getD "" = "" then [] else [name] := by
  obtain ⟨empty, -, nothing⟩ | ⟨s, filled, rfl, single⟩ := givenProperties_cases name text
  · rw [nothing, if_pos empty, List.map_nil]
  · rw [single, Option.getD_some, if_neg filled, List.map_singleton]

theorem text?_written {name : String} {properties : List Property} {text : Option String}
    (found : value? name properties = text.map (escapeText ·.toList)) : text? name properties = text := by
  rw [text?, found]
  cases text with
  | none => rfl
  | some s => simp [unescape?_escapeText]

theorem instant?_written {name : String} {properties : List Property} {t : Instant}
    (found : value? name properties = some (writeCompact t).toList) :
    instant? name properties = some (shownSecond t) := by
  rw [instant?, found, Option.bind_some, second?_writeCompact]

theorem shows_eventProperties (now : Instant) (e : Event) : Shows (eventProperties now e) e := by
  constructor
  case names => simp [eventProperties, names_given]
  case id | title | description | location =>
    exact text?_written (by simp [eventProperties, value?_cons, value?_given, value?_nil])
  case start | finish =>
    exact instant?_written (by simp [eventProperties, value?_cons, value?_given])

/-- A file is read as one calendar if its name is read as properties and events, the latter first. -/
theorem readFile_named {name : String} {own : List Property} {early : List (List Property)}
    (named : nameProperties name = own ++ early.flatMap bounded) (inner : Inner own)
    (inside : ∀ event ∈ early, Inner event) (now : Instant) {events : List Event} (filled : events ≠ []) :
    readFile (file name now events) =
      some ⟨standardProperties ++ own ++ [("X-WR-CALNAME", escapeText name.toList)],
        early ++ events.map (eventProperties now)⟩ := by
  have standard : Inner standardProperties := by
    unfold Inner
    decide
  have shown : Inner [("X-WR-CALNAME", escapeText name.toList)] := inner_single (by decide) _
  have written : ∀ event ∈ events.map (eventProperties now), Inner event := by
    intro event member
    obtain ⟨e, -, rfl⟩ := List.mem_map.mp member
    exact inner_eventProperties now e
  have read := file_properties name now filled
  simp only [ownProperties, named, List.append_assoc] at read
  rw [readFile, read, List.singleton_append]
  dsimp only
  -- The reader takes the parts in the order in which they were written.
  rw [if_pos rfl, readOn_properties _ _ standard, readOn_properties _ _ inner, readOn_events _ _ inside,
    readOn_properties _ _ shown, readOn_events _ _ written, readOn_finish]
  rfl

/-- Whatever the name of a calendar is, its file ends with all of its events. If the name fits on a line,
the file is one calendar with that name and those events. -/
theorem file_read_back (name : String) (now : Instant) {events : List Event} (filled : events ≠ []) :
    ∃ shown, List.Forall₂ Shows shown events ∧
      (contentLines (file name now events)).map propertyOf =
        [start "VCALENDAR"] ++ ownProperties name ++ shown.flatMap bounded ++ [finish "VCALENDAR"] ++
          [("", [])] ∧
      (OneLine name.toList → ∃ own, readFile (file name now events) = some ⟨own, shown⟩ ∧
        own.map (·.1) = ["VERSION", "PRODID", "CALSCALE", "NAME", "X-WR-CALNAME"] ∧
        value? "NAME" own = some name.toList ∧ text? "X-WR-CALNAME" own = some name) := by
  refine ⟨events.map (eventProperties now), ?events, file_properties name now filled, ?calendar⟩
  case events =>
    exact List.forall₂_map_left_iff.mpr (List.forall₂_same.mpr fun e _ => shows_eventProperties now e)
  case calendar =>
    intro one
    let early : List (List Property) := []
    have named : nameProperties name = [("NAME", name.toList)] ++ early.flatMap bounded :=
      nameProperties_oneLine one
    have read := readFile_named named (inner_single (by decide) _) (List.forall_mem_nil _) now filled
    refine ⟨_, read, rfl, ?plain, text?_written ?escaped⟩
    case plain => simp [standardProperties, value?_cons]
    case escaped => simp [standardProperties, value?_cons]

/-- An event whose texts hold everything that could end a line or a value, from a leap second to a year
of five digits. -/
def trickyEvent : Event where
  id := "7"
  title := "\r\nEND:VEVENT\r\nBEGIN:VEVENT"
  description := some "bread, wine; \\n\n ✝"
  category := .worship
  location := some ""
  start := ⟨1483228799, 1500000000, by decide, by decide⟩
  finish := ⟨253402300800, 0, by decide, by decide⟩
  imageUrl := none

theorem tricky_file_read_back :
    [trickyEvent] ≠ [] ∧ OneLine "Feasts,\nfasts".toList ∧
    ∃ shown own, List.Forall₂ Shows shown [trickyEvent] ∧
      readFile (file "Feasts,\nfasts" trickyEvent.start [trickyEvent]) = some ⟨own, shown⟩ ∧
      text? "X-WR-CALNAME" own = some "Feasts,\nfasts" := by
  have one : OneLine "Feasts,\nfasts".toList := .of_return (by decide)
  have filled : [trickyEvent] ≠ [] := List.cons_ne_nil _ _
  obtain ⟨shown, events, -, calendar⟩ := file_read_back "Feasts,\nfasts" trickyEvent.start filled
  obtain ⟨own, read, -, -, told⟩ := calendar one
  exact ⟨filled, one, shown, own, events, read, told⟩

/-- A name that holds an event of its own. -/
def forgedName : String := "A\r\nBEGIN:VEVENT\r\nUID:x\r\nSUMMARY:Free food\r\nEND:VEVENT"

def forgedEvent : List Property := [("UID", ['x']), ("SUMMARY", "Free food".toList)]

theorem nameProperties_forgedName :
    nameProperties forgedName = [("NAME", ['A'])] ++ [forgedEvent].flatMap bounded := by
  rw [nameProperties, Text.Fold.fold_short (by decide)]
  decide

/-- The name of a calendar can add an event to its file. -/
theorem forged_name_adds_event :
    ∃ document, readFile (file forgedName trickyEvent.start [trickyEvent]) = some document ∧
      document.events.map (text? "SUMMARY") = [some "Free food", some trickyEvent.title] ∧
      ¬ List.Forall₂ Shows document.events [trickyEvent] := by
  have inner : Inner [("NAME", ['A'])] := inner_single (by decide) _
  have inside : ∀ event ∈ [forgedEvent], Inner event := by
    unfold Inner
    decide
  have read := readFile_named nameProperties_forgedName inner inside trickyEvent.start
    (List.cons_ne_nil trickyEvent [])
  have shown := shows_eventProperties trickyEvent.start trickyEvent
  refine ⟨_, read, ?both, ?different⟩
  case both =>
    change [text? "SUMMARY" forgedEvent, text? "SUMMARY" (eventProperties trickyEvent.start trickyEvent)] = _
    rw [shown.title]
    decide
  case different => rintro (_ | ⟨_, ⟨⟩⟩)

end ParishSite.Calendar
