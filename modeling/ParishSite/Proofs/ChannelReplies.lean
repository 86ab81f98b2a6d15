import ParishSite.Feed.Client
import ParishSite.Proofs.CallRuns

/-! The questions that a call puts to the channel, one after another, and what becomes of the call. A
question that is not answered ends it, and a page is made of the answers. -/

namespace ParishSite.Feed

open Web (Outgoing Reply)

variable {s : Surroundings} {before : Transcript} {c : Client}

namespace Client

/-- What a reply means for a read of its body. -/
def outcomeOf (d : Json.Decoder α) : Reply → Except Fault α
  | .dropped => .error .unreachable
  | .answered status body =>
    if Web.isSuccess status then
      match body.map fun bytes => Json.read d (Text.Utf8.symbols bytes) with
      | some (.ok value) => .ok value
      | _ => .error .unreachable
    else
      let r := Refusal.ofBody body
      .error (.refused status r.reason? (r.message?.getD (Web.refusalText status)))

theorem fetch_puts (what : String) (pairs : List (String × String)) (d : Json.Decoder α) :
    Puts (c.outgoing what pairs) (outcomeOf d) (c.fetch what pairs d) := by
  have cut : ExceptT.run (c.fetch what pairs d) =
      ((Dialogue.ask (c.outgoing what pairs)).bind fun reply =>
        .done (Except.ok reply : Except Fault Reply)).bind _ := rfl
  unfold Puts
  rw [cut, Dialogue.bind_assoc]
  congr 1
  funext reply
  cases reply with
  | dropped => rfl
  | answered status body =>
    dsimp only [outcomeOf, Dialogue.done_bind, ExceptT.bindCont]
    cases success : Web.isSuccess status with
    | false => rfl
    | true =>
      cases body with
      | none => rfl
      | some bytes =>
        simp only [if_true, Option.map_some]
        cases Json.read d (Text.Utf8.symbols bytes) <;> rfl

end Client

/-- What the channel is asked for: where its uploads are listed, some of the uploads, what a search
finds, and the details of videos. -/
inductive Question
  | channels (known : Credentials)
  | uploads (known : Credentials) (list : String) (r : PageRequest)
  | search (known : Credentials) (query : String) (r : PageRequest)
  | details (known : Credentials) (videos : List Video)

namespace Question

def what : Question → String
  | channels _ => "channels"
  | uploads _ _ _ => "playlistItems"
  | search _ _ _ => "search"
  | details _ _ => "videos"

private def pagePairs (r : PageRequest) : List (String × String) :=
  r.pageToken.elim [] fun token => [("pageToken", token)]

def pairs : Question → List (String × String)
  | channels known =>
    [("part", "contentDetails"), ("id", known.channel), ("key", known.key)]
  | uploads known list r =>
    [("part", "snippet,contentDetails"), ("playlistId", list),
      ("maxResults", toString r.maxResults), ("key", known.key)] ++ pagePairs r
  | search known query r =>
    [("part", "snippet"), ("channelId", known.channel), ("q", query), ("type", "video"),
      ("maxResults", toString r.maxResults), ("order", "relevance"), ("key", known.key)] ++ pagePairs r
  | details known videos =>
    [("part", "contentDetails,statistics"), ("id", ",".intercalate (videos.map Video.id)),
      ("key", known.key)]

abbrev Answer : Question → Type
  | channels _ => String
  | uploads _ _ _ => UploadList
  | search _ _ _ => SearchList
  | details _ _ => DetailsList

/-- What a reply says to a question. A channel without a list of uploads gives no answer. -/
def read : (q : Question) → Reply → Except Fault q.Answer
  | channels _, reply =>
    (Client.outcomeOf ChannelList.decoder reply).bind fun channels =>
      channels.uploads?.elim (.error .noUploads) .ok
  | uploads _ _ _, reply => Client.outcomeOf UploadList.decoder reply
  | search _ _ _, reply => Client.outcomeOf SearchList.decoder reply
  | details _ _, reply => Client.outcomeOf DetailsList.decoder reply

theorem read_dropped (q : Question) : q.read .dropped = .error .unreachable := by
  cases q <;> rfl

def Answered (pair : Question × Reply) : Prop := ∃ answer, pair.1.read pair.2 = .ok answer

end Question

abbrev Inquiry := List (Question × Reply)

namespace Client

def request (c : Client) (q : Question) : Outgoing := c.outgoing q.what q.pairs

def exchange (c : Client) (pair : Question × Reply) : Outgoing × Reply :=
  (c.request pair.1, pair.2)

structure Ready (c : Client) : Prop where
  configured : c.credentials ≠ none
  reachable : c.url.isHttp = true

theorem outgoing_sendable (c : Client) (what : String) (pairs : List (String × String)) :
    (c.outgoing what pairs).isSendable = c.url.isHttp := by
  have scheme : (c.outgoing what pairs).url.scheme = c.url.scheme :=
    (Web.Url.scheme_withPairs _ _).trans (Web.Url.scheme_extended _ _)
  unfold Outgoing.isSendable Web.Url.isHttp
  rw [scheme]
  simp [outgoing, Outgoing.read]

/-- How it comes that a call fails: nothing could be asked, or everything was answered but for the last
question. -/
inductive Stops (c : Client) : Inquiry → Fault → Prop
  | unconfigured (missing : c.credentials = none) : Stops c [] .notConfigured
  | unsent (lost : c.url.isHttp = false) : Stops c [] .unreachable
  | failed {earlier q reply fault} (answered : ∀ pair ∈ earlier, Question.Answered pair)
      (last : q.read reply = .error fault) : Stops c (earlier ++ [(q, reply)]) fault

/-- How a call ends: with a result that is made of the answers to all of its questions, or with the
first fault. -/
inductive Ends (c : Client) (made : Inquiry → α → Prop) : Inquiry → Except Fault α → Prop
  | answered {asked value} (all : ∀ pair ∈ asked, Question.Answered pair) (result : made asked value) :
      Ends c made asked (.ok value)
  | stopped {asked fault} (stops : Stops c asked fault) : Ends c made asked (.error fault)

/-- A call puts questions to the channel, asks nothing else and ends as told. -/
def Inquires (c : Client) (made : Inquiry → α → Prop) (call : Call α) : Prop :=
  ∀ s before, ∃ asked, (runCall s before call).2 = before.exchanged (asked.map c.exchange) ∧
    (asked ≠ [] → c.Ready) ∧ Ends c made asked (runCall s before call).1

theorem Inquires.pure {made : Inquiry → α → Prop} {value : α} (result : made [] value) :
    c.Inquires made (pure value) := by
  intro s before
  refine ⟨[], before.exchanged_nil.symm, fun some => absurd rfl some, ?_⟩
  exact .answered (by simp) result

theorem Inquires.weaken {made other : Inquiry → α → Prop} {call : Call α}
    (inquires : c.Inquires made call) (implies : ∀ asked value, made asked value → other asked value) :
    c.Inquires other call := by
  intro s before
  obtain ⟨asked, exchanged, ready, ends⟩ := inquires s before
  refine ⟨asked, exchanged, ready, ?_⟩
  generalize (runCall s before call).1 = outcome at ends
  cases ends with
  | answered all result => exact .answered all (implies asked _ result)
  | stopped stops => exact .stopped stops

/-- What stops a call stops it just as well after some answers. -/
theorem Stops.after {earlier asked : Inquiry} {fault : Fault}
    (all : ∀ pair ∈ earlier, Question.Answered pair) (ready : earlier ≠ [] → c.Ready)
    (stops : Stops c asked fault) : Stops c (earlier ++ asked) fault := by
  cases stops with
  | unconfigured missing =>
    cases earlier with
    | nil => exact .unconfigured missing
    | cons => exact absurd missing (ready (List.cons_ne_nil _ _)).configured
  | unsent lost =>
    cases earlier with
    | nil => exact .unsent lost
    | cons =>
      have reachable := (ready (List.cons_ne_nil _ _)).reachable
      rw [lost] at reachable
      cases reachable
  | @failed before q reply fault answered last =>
    rw [← List.append_assoc]
    exact .failed (List.forall_mem_append.mpr ⟨all, answered⟩) last

theorem Inquires.bind {mid : Inquiry → α → Prop} {made : Inquiry → β → Prop} {call : Call α}
    {next : α → Call β} (first : c.Inquires mid call)
    (rest : ∀ earlier value, mid earlier value →
      c.Inquires (fun later => made (earlier ++ later)) (next value)) :
    c.Inquires made (call >>= next) := by
  intro s before
  obtain ⟨earlier, exchanged, ready, ends⟩ := first s before
  rw [runCall_bind]
  generalize runCall s before call = ran at exchanged ends
  obtain ⟨outcome, after⟩ := ran
  cases ends with
  | stopped stops => exact ⟨earlier, exchanged, ready, .stopped stops⟩
  | @answered value all result =>
    subst exchanged
    dsimp only
    obtain ⟨later, exchanged, ready', ends⟩ :=
      rest earlier value result s (before.exchanged (earlier.map c.exchange))
    refine ⟨earlier ++ later, ?_, ?_, ?_⟩
    · rw [exchanged, Transcript.exchanged_exchanged, List.map_append]
    · intro some
      cases earlier with
      | nil => exact ready' some
      | cons => exact ready (List.cons_ne_nil _ _)
    · generalize (runCall s (before.exchanged _) (next value)).1 = outcome at ends
      cases ends with
      | answered answered result =>
        exact .answered (List.forall_mem_append.mpr ⟨all, answered⟩) result
      | stopped stops => exact .stopped (stops.after all ready)

theorem Inquires.question {q : Question} {call : Call q.Answer} (configured : c.credentials ≠ none)
    (puts : Puts (c.request q) q.read call) :
    c.Inquires (fun asked answer => ∃ reply, asked = [(q, reply)] ∧ q.read reply = .ok answer)
      call := by
  intro s before
  have sendable : (c.request q).isSendable = c.url.isHttp := c.outgoing_sendable _ _
  rcases puts.runs s before with ⟨sent, reply, ran⟩ | ⟨unsent, ran⟩
  · rw [ran]
    refine ⟨[(q, reply)], rfl, fun _ => ⟨configured, sendable.symm.trans sent⟩, ?_⟩
    cases read : q.read reply with
    | ok answer => exact .answered (by simpa using ⟨answer, read⟩) ⟨reply, rfl, read⟩
    | error fault =>
      have stops : Stops c ([] ++ [(q, reply)]) fault := .failed (by simp) read
      exact .stopped stops
  · rw [ran, q.read_dropped]
    exact ⟨[], before.exchanged_nil.symm, fun some => absurd rfl some,
      .stopped (.unsent (sendable.symm.trans unsent))⟩

theorem needCredentials_inquires :
    c.Inquires (fun asked known => asked = [] ∧ c.credentials = some known) c.needCredentials := by
  intro s before
  refine ⟨[], ?_, fun some => absurd rfl some, ?_⟩
  · unfold needCredentials
    split <;> exact before.exchanged_nil.symm
  · unfold needCredentials
    split
    · next known has => exact .answered (by simp) ⟨rfl, has⟩
    · next missing => exact .stopped (.unconfigured missing)

variable {known : Credentials}

theorem uploadsId_inquires (has : c.credentials = some known) :
    c.Inquires (fun asked list => ∃ reply, asked = [(.channels known, reply)] ∧
      (Question.channels known).read reply = .ok list) (c.uploadsId known) := by
  have configured : c.credentials ≠ none := by simp [has]
  refine Inquires.question configured ?_
  refine Puts.followed (c.fetch_puts _ _ _) ?_
  intro channels
  cases channels.uploads? <;> rfl

/-- How videos get their details, which are asked for unless there are no videos. -/
inductive Detailed (known : Credentials) (videos : List Video) : Inquiry → List Video → Prop
  | nothing (empty : videos = []) : Detailed known videos [] []
  | asked {reply details} (some : videos ≠ [])
      (read : (Question.details known videos).read reply = .ok details) :
      Detailed known videos [(.details known videos, reply)] (videos.map details.complete)

theorem completed_inquires (has : c.credentials = some known) (videos : List Video) :
    c.Inquires (Detailed known videos) (c.completed known videos) := by
  have configured : c.credentials ≠ none := by simp [has]
  unfold completed
  split
  · next empty =>
    rw [List.isEmpty_iff.mp empty]
    exact .pure (.nothing rfl)
  · next filled =>
    refine (Inquires.question (q := .details known videos) configured (c.fetch_puts _ _ _)).bind ?_
    rintro - details ⟨reply, rfl, read⟩
    refine .pure (.asked ?_ read)
    rwa [Bool.not_eq_true, List.isEmpty_eq_false_iff] at filled

theorem Detailed.ids {videos completed : List Video} {asked : Inquiry}
    (detailed : Detailed known videos asked completed) :
    completed.map Video.id = videos.map Video.id := by
  cases detailed with
  | nothing empty => rw [empty]
  | @asked reply details some read =>
    rw [List.map_map]
    apply List.map_congr_left
    intro video _
    dsimp only [Function.comp, DetailsList.complete]
    split <;> rfl

end Client

inductive FeedCall
  | latest (r : PageRequest)
  | search (query : String) (r : PageRequest)

namespace FeedCall

def fetch (c : Client) : FeedCall → Call VideoPage
  | latest r => c.fetchLatest r
  | search query r => c.fetchSearch (Text.trimmed query) r

/-- A page is made of the videos that the channel listed on being asked for them. -/
def Made : FeedCall → Inquiry → VideoPage → Prop
  | latest r, asked, page => ∃ known list reply uploads,
    (Question.uploads known list r, reply) ∈ asked ∧
      (Question.uploads known list r).read reply = .ok uploads ∧
      page.videos.map Video.id = uploads.videos.map Video.id ∧
      page.nextPageToken = uploads.nextPageToken
  | search query r, asked, page => ∃ known reply found,
    (Question.search known (Text.trimmed query) r, reply) ∈ asked ∧
      (Question.search known (Text.trimmed query) r).read reply = .ok found ∧
      page.videos.map Video.id = found.videos.map Video.id ∧
      page.nextPageToken = found.nextPageToken

theorem Made.ne_nil {call : FeedCall} {asked : Inquiry} {page : VideoPage}
    (made : call.Made asked page) : asked ≠ [] := by
  cases call with
  | latest r =>
    obtain ⟨_, _, _, _, member, -⟩ := made
    exact List.ne_nil_of_mem member
  | search query r =>
    obtain ⟨_, _, _, member, -⟩ := made
    exact List.ne_nil_of_mem member

/-- How a page comes about: what is listed is asked for, and then the details of the videos there. -/
inductive Assembled (c : Client) : FeedCall → Inquiry → VideoPage → Prop
  | latest {r known channels list told uploads more videos} (has : c.credentials = some known)
      (place : (Question.channels known).read channels = .ok list)
      (read : (Question.uploads known list r).read told = .ok uploads)
      (detailed : Client.Detailed known uploads.videos more videos) :
      Assembled c (.latest r) ((.channels known, channels) :: (.uploads known list r, told) :: more)
        ⟨videos, uploads.nextPageToken⟩
  | search {query r known told found more videos} (has : c.credentials = some known)
      (read : (Question.search known (Text.trimmed query) r).read told = .ok found)
      (detailed : Client.Detailed known found.videos more videos) :
      Assembled c (.search query r) ((.search known (Text.trimmed query) r, told) :: more)
        ⟨videos, found.nextPageToken⟩

theorem Assembled.made {c : Client} {call : FeedCall} {asked : Inquiry} {page : VideoPage}
    (assembled : call.Assembled c asked page) : call.Made asked page := by
  cases assembled with
  | latest _ _ read detailed => exact ⟨_, _, _, _, by simp, read, detailed.ids, rfl⟩
  | search _ read detailed => exact ⟨_, _, _, List.mem_cons_self, read, detailed.ids, rfl⟩

theorem fetch_assembles (c : Client) (call : FeedCall) :
    c.Inquires (call.Assembled c) (call.fetch c) := by
  cases call with
  | latest r =>
    refine Client.needCredentials_inquires.bind ?_
    rintro - known ⟨rfl, has⟩
    have configured : c.credentials ≠ none := by simp [has]
    refine (Client.uploadsId_inquires has).bind ?_
    rintro - list ⟨channels, rfl, place⟩
    refine (Client.Inquires.question (q := .uploads known list r) configured ?_).bind ?_
    · obtain ⟨token, count, mayUseCache⟩ := r
      cases token <;> exact c.fetch_puts _ _ _
    rintro - uploads ⟨told, rfl, read⟩
    refine (Client.completed_inquires has uploads.videos).bind ?_
    intro more videos detailed
    apply Client.Inquires.pure
    rw [List.append_nil]
    exact .latest has place read detailed
  | search query r =>
    refine Client.needCredentials_inquires.bind ?_
    rintro - known ⟨rfl, has⟩
    have configured : c.credentials ≠ none := by simp [has]
    refine (Client.Inquires.question (q := .search known (Text.trimmed query) r) configured ?_).bind ?_
    · obtain ⟨token, count, mayUseCache⟩ := r
      cases token <;> exact c.fetch_puts _ _ _
    rintro - found ⟨told, rfl, read⟩
    refine (Client.completed_inquires has found.videos).bind ?_
    intro more videos detailed
    apply Client.Inquires.pure
    rw [List.append_nil]
    exact .search has read detailed

theorem fetch_inquires (c : Client) (call : FeedCall) : c.Inquires call.Made (call.fetch c) :=
  (fetch_assembles c call).weaken fun _ _ => Assembled.made

end FeedCall
end ParishSite.Feed
