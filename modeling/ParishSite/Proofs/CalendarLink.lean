import Mathlib.Data.Bool.AllAny
import ParishSite.Proofs.CalendarFile
import ParishSite.Web.Url

/-! The link that takes an event into an online calendar. It is an address of the calendar's own page with
one query, and the query is read back as the five pairs that the page asks for. What the event says stays
inside the values of these pairs, whatever characters it holds. -/

namespace ParishSite

namespace Web.Form

theorem encodeByte_allPlain : ∀ n < 256, (encodeByte (UInt8.ofNat n)).all Url.isPlain = true := by
  decide +kernel

theorem encodeByte_isPlain (b : UInt8) : ∀ c ∈ encodeByte b, Url.isPlain c = true := by
  have all := encodeByte_allPlain b.toNat b.toNat_lt
  rw [UInt8.ofNat_toNat] at all
  exact List.all_eq_true.mp all

theorem encodeText_isPlain (s : String) : ∀ c ∈ encodeText s, Url.isPlain c = true := by
  intro c member
  obtain ⟨b, -, inside⟩ := List.mem_flatMap.mp member
  exact encodeByte_isPlain b c inside

theorem encodePair_isPlain (pair : String × String) : ∀ c ∈ encodePair pair, Url.isPlain c = true := by
  intro c member
  rw [encodePair, List.mem_append, List.mem_cons] at member
  rcases member with name | rfl | value
  · exact encodeText_isPlain pair.1 c name
  · decide
  · exact encodeText_isPlain pair.2 c value

theorem encode_isPlain (pairs : List (String × String)) :
    ∀ c ∈ encode pairs, Url.isPlain c = true := by
  induction pairs with
  | nil => exact List.forall_mem_nil _
  | cons pair rest ih =>
    cases rest with
    | nil => exact encodePair_isPlain pair
    | cons next rest =>
      intro c member
      rw [encode, List.mem_append, List.mem_cons] at member
      · rcases member with first | rfl | later
        · exact encodePair_isPlain pair c first
        · decide
        · exact ih c later
      · exact List.cons_ne_nil next rest

end Web.Form

namespace Calendar

open Time (Instant)
open Time.Rfc3339 (padded writeCompact)

/-- A text names the second of an instant, and holds no slash that would end it. -/
structure NamesSecond (text : String) (t : Instant) : Prop where
  read : second? text.toList = some (shownSecond t)
  whole : '/' ∉ text.toList

theorem slash_not_mem_padded (width n : Nat) : '/' ∉ padded width n := by
  intro member
  exact absurd (Time.Rfc3339.padded_digits width n '/' member) (by decide)

theorem slash_not_mem_yearText (year : Int) : '/' ∉ Time.Rfc3339.yearText year := by
  unfold Time.Rfc3339.yearText
  split
  · exact slash_not_mem_padded _ _
  · rw [List.mem_cons, not_or]
    refine ⟨?_, slash_not_mem_padded _ _⟩
    split <;> decide

theorem writeCompact_names (t : Instant) : NamesSecond (writeCompact t) t := by
  refine ⟨second?_writeCompact t, ?_⟩
  rw [writeCompact, String.toList_ofList]
  simp [slash_not_mem_padded, slash_not_mem_yearText]

/-- The page of the calendar that takes an event. -/
def page : Web.Url where
  scheme := "https".toList
  authority := some ⟨[], "calendar.google.com".toList, none⟩
  path := .segments ["calendar".toList, "render".toList]
  query := none
  fragment := none

def pageText : String := "https://calendar.google.com/calendar/render"

theorem read_pageText : Web.Url.readString pageText = .ok page := by decide

/-- Two texts with a blank line between them, unless one of them is empty. -/
def paragraphs (first second : String) : String :=
  if first = "" then second else if second = "" then first else first ++ "\n\n" ++ second

theorem details_eq (e : Event) :
    e.details = paragraphs (e.description.getD "") (e.location.getD "") := by
  have one (text : String) : "\n\n".intercalate [text] = text := rfl
  have two (first second : String) : "\n\n".intercalate [first, second] = first ++ "\n\n" ++ second := rfl
  unfold Event.details paragraphs
  cases e.description with
  | none =>
    cases e.location with
    | none => rfl
    | some location => by_cases blank : location = "" <;> simp [blank, one]
  | some description =>
    cases e.location with
    | none => by_cases blank : description = "" <;> simp [blank, one]
    | some location =>
      by_cases blank : description = "" <;> by_cases empty : location = "" <;>
        simp [blank, empty, one, two]

theorem calendarUrl_toList (e : Event) :
    e.calendarUrl.toList = pageText.toList ++ '?' :: Web.Form.encode e.calendarPairs := by
  have joined : e.calendarUrl = pageText ++ "?" ++ String.ofList (Web.Form.encode e.calendarPairs) := rfl
  simp [joined]

theorem readString_calendarUrl (e : Event) :
    Web.Url.readString e.calendarUrl =
      .ok { page with query := some (Web.Form.encode e.calendarPairs) } := by
  rw [Web.Url.readString, calendarUrl_toList]
  apply Web.Url.read_query read_pageText
  · exact List.all_iff_forall_prop.mp (by decide)
  · decide
  · exact Web.Form.encode_isPlain e.calendarPairs

/-- The link of an event is the calendar's page with a query of five pairs that hold the event: its
title, its description and place, its place alone and the seconds in which it starts and ends. It is
plain ASCII, and nothing in the event gets into the host or the path, or makes a fragment. -/
theorem calendarUrl_carries_event (e : Event) :
    ∃ (query : List Char) (start finish : String),
      e.calendarUrl.toList = "https://calendar.google.com/calendar/render".toList ++ '?' :: query ∧
      Web.Form.decode query =
        [("action", "TEMPLATE"), ("text", e.title),
          ("details", paragraphs (e.description.getD "") (e.location.getD "")),
          ("location", e.location.getD ""), ("dates", start ++ "/" ++ finish)] ∧
      NamesSecond start e.start ∧ NamesSecond finish e.finish ∧
      (∀ c ∈ e.calendarUrl.toList, c.toNat < 128) ∧
      Web.Url.readString e.calendarUrl = .ok { page with query := some query } := by
  refine ⟨Web.Form.encode e.calendarPairs, writeCompact e.start, writeCompact e.finish,
    calendarUrl_toList e, ?pairs, writeCompact_names e.start, writeCompact_names e.finish, ?ascii,
    readString_calendarUrl e⟩
  case pairs => rw [Web.Form.decode_encode, Event.calendarPairs, details_eq]
  case ascii =>
    intro c member
    rw [calendarUrl_toList, List.mem_append, List.mem_cons] at member
    rcases member with place | rfl | asked
    · have ascii : ∀ c ∈ pageText.toList, c.toNat < 128 := List.all_iff_forall_prop.mp (by decide)
      exact ascii c place
    · decide
    · have visible := Web.Url.isPlain_visible (Web.Form.encode_isPlain e.calendarPairs c asked)
      omega

end Calendar
end ParishSite
