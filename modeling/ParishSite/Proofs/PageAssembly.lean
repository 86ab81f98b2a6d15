import ParishSite.Proofs.PageProvenance

/-! What stands on a page of the feed: one video for each item of the list that names one, in the order
of the list, with the details that the channel last told of its id. Details are asked for once, for all
videos of the page together, and not at all for an empty page. -/

namespace ParishSite.Feed

open Time (Instant)

/-- The first address in a list that is there and not empty, or else the empty text. -/
inductive FirstAddress : List (Option (Option String)) → String → Prop
  | none : FirstAddress [] ""
  | found {url pictures} (filled : url ≠ "") : FirstAddress (some (some url) :: pictures) url
  | passed {picture pictures url} (blank : ∀ u, picture = some (some u) → u = "")
      (later : FirstAddress pictures url) : FirstAddress (picture :: pictures) url

theorem FirstAddress.of_find (pictures : List (Option (Option String))) :
    FirstAddress pictures
      (((pictures.filterMap fun p => p.bind fun u => u).find? (· ≠ "")).getD "") := by
  induction pictures with
  | nil => exact .none
  | cons picture pictures ih =>
    rcases picture with _ | _ | url
    · exact .passed (fun _ same => nomatch same) ih
    · exact .passed (fun _ same => nomatch same) ih
    · have first : (some (some url) :: pictures).filterMap (fun p => p.bind fun u => u) =
        url :: pictures.filterMap (fun p => p.bind fun u => u) := rfl
      rw [first]
      by_cases blank : url = ""
      · rw [List.find?_cons_of_neg (by simpa using blank)]
        apply FirstAddress.passed ?_ ih
        rintro u ⟨⟩
        exact blank
      · rw [List.find?_cons_of_pos (by simpa using blank)]
        exact .found blank

/-- The title that is told, unless there is none. -/
inductive Titled : Option String → String → Prop
  | told {title} (filled : title ≠ "") : Titled (some title) title
  | untitled {told} (blank : ∀ title, told = some title → title = "") : Titled told "Untitled video"

theorem Titled.of_filter (told : Option String) :
    Titled told ((told.filter (· ≠ "")).getD "Untitled video") := by
  cases told with
  | none => exact .untitled fun _ same => nomatch same
  | some title =>
    by_cases blank : title = ""
    · subst blank
      exact .untitled fun _ same => (Option.some.inj same).symm
    · rw [Option.filter_some_pos (by simpa using blank)]
      exact .told blank

theorem Titled.ne_empty {told : Option String} {title : String} (titled : Titled told title) :
    title ≠ "" := by
  cases titled with
  | told filled => exact filled
  | untitled => decide

/-- The length and the count of views in the last details with an id, or nothing without any. -/
inductive LastDetails (details : List Details) (id : String) :
    Option String → Option String → Prop
  | known {earlier d later} (cut : details = earlier ++ d :: later) (same : d.id = some id)
      (last : ∀ e ∈ later, e.id ≠ some id) : LastDetails details id d.duration d.viewCount
  | unknown (absent : ∀ d ∈ details, d.id ≠ some id) : LastDetails details id none none

theorem lastDetails_iff {list : DetailsList} {id : String} {duration viewCount : Option String} :
    LastDetails list.items id duration viewCount ↔
      duration = (list.find? id).bind Details.duration ∧
        viewCount = (list.find? id).bind Details.viewCount := by
  constructor
  · intro told
    cases told with
    | @known earlier d later cut same last =>
      have found : list.find? id = some d := by
        apply List.find?_eq_some_iff_append.mpr
        refine ⟨by simpa using same, later.reverse, earlier.reverse, by rw [cut]; simp, ?_⟩
        simpa using last
      rw [found]
      exact ⟨rfl, rfl⟩
    | unknown absent =>
      have found : list.find? id = none := by
        apply List.find?_eq_none.mpr
        simpa using absent
      rw [found]
      exact ⟨rfl, rfl⟩
  · rintro ⟨rfl, rfl⟩
    cases found : list.find? id with
    | none =>
      have absent := List.find?_eq_none.mp found
      exact .unknown (by simpa using absent)
    | some d =>
      obtain ⟨same, later, earlier, reversed, last⟩ := List.find?_eq_some_iff_append.mp found
      have cut : list.items = earlier.reverse ++ d :: later.reverse := by
        rw [← List.reverse_reverse list.items, reversed]
        simp
      exact .known cut (by simpa using same) (by simpa using last)

def Snippet.pictures (s : Snippet) : List (Option (Option String)) :=
  s.thumbnails.elim [] fun t => [t.high, t.medium, t.default]

/-- A video shows what a snippet tells of it and what the details of its id add. -/
structure Shows (s : Snippet) (id : String) (details : List Details) (v : Video) : Prop where
  identity : v.id = id
  embedUrl : v.embedUrl = "https://www.youtube.com/embed/" ++ id
  watchUrl : v.watchUrl = "https://www.youtube.com/watch?v=" ++ id
  named : v.title ≠ ""
  title : Titled s.title v.title
  description : v.description = s.description.getD ""
  publishedAt : v.publishedAt = s.publishedAt.getD ""
  thumbnail : FirstAddress s.pictures v.thumbnailUrl
  details : LastDetails details id v.duration v.viewCount

theorem Snippet.shows_video (s : Snippet) (id : String) (list : DetailsList) :
    Shows s id list.items (list.complete (s.video id "Untitled video")) := by
  have title := Titled.of_filter s.title
  have thumbnail : FirstAddress s.pictures (s.video id "Untitled video").thumbnailUrl := by
    unfold pictures video
    cases s.thumbnails with
    | none => exact .none
    | some t => exact FirstAddress.of_find _
  have completed : list.complete (s.video id "Untitled video") =
      { s.video id "Untitled video" with
        duration := (list.find? id).bind Details.duration
        viewCount := (list.find? id).bind Details.viewCount } := by
    have asked : (s.video id "Untitled video").id = id := rfl
    rw [DetailsList.complete, asked]
    cases list.find? id <;> rfl
  rw [completed]
  exact ⟨rfl, rfl, rfl, title.ne_empty, title, rfl, rfl, thumbnail, lastDetails_iff.mpr ⟨rfl, rfl⟩⟩

def UploadTells (item : Option Snippet) (id : String) (s : Snippet) : Prop :=
  item = some s ∧ s.resourceId = some (some id) ∧ id ≠ ""

def FindTells (item : SearchItem) (id : String) (s : Snippet) : Prop :=
  item.id = some (some id) ∧ id ≠ "" ∧ s = item.snippet.getD Snippet.empty

/-- The videos of a list: one for each item that tells of one, in the order of the items. -/
inductive Listed {ι : Type} (tells : ι → String → Snippet → Prop) (details : List Details) :
    List ι → List Video → Prop
  | done : Listed tells details [] []
  | shown {item items id s video videos} (told : tells item id s)
      (shows : Shows s id details video) (rest : Listed tells details items videos) :
      Listed tells details (item :: items) (video :: videos)
  | passed {item items videos} (silent : ∀ id s, ¬ tells item id s)
      (rest : Listed tells details items videos) : Listed tells details (item :: items) videos

namespace Listed

variable {ι : Type} {tells : ι → String → Snippet → Prop} {details : List Details}
  {items : List ι} {videos : List Video}

theorem details_last (listed : Listed tells details items videos) :
    ∀ v ∈ videos, LastDetails details v.id v.duration v.viewCount := by
  induction listed with
  | done => exact fun v member => absurd member List.not_mem_nil
  | shown told shows rest ih =>
    refine List.forall_mem_cons.mpr ⟨?_, ih⟩
    rw [shows.identity]
    exact shows.details
  | passed silent rest ih => exact ih

theorem of_filterMap {select : ι → Option Video} (list : DetailsList)
    (chosen : ∀ item video, select item = some video ↔
      ∃ id s, tells item id s ∧ video = s.video id "Untitled video") (items : List ι) :
    Listed tells list.items items ((items.filterMap select).map list.complete) := by
  induction items with
  | nil => exact .done
  | cons item items ih =>
    cases selected : select item with
    | none =>
      rw [List.filterMap_cons_none selected]
      apply Listed.passed ?_ ih
      intro id s told
      have taken := (chosen item _).mpr ⟨id, s, told, rfl⟩
      rw [selected] at taken
      cases taken
    | some video =>
      obtain ⟨id, s, told, rfl⟩ := (chosen item video).mp selected
      rw [List.filterMap_cons_some selected, List.map_cons]
      exact .shown told (s.shows_video id list) ih

end Listed

theorem made_iff {told : Option (Option String)} {make : String → Video} {video : Video} :
    (told.bind fun id => (id.filter (· ≠ "")).bind fun id => some (make id)) = some video ↔
      ∃ id, told = some (some id) ∧ id ≠ "" ∧ video = make id := by
  constructor
  · intro made
    obtain ⟨given, same, rest⟩ := Option.bind_eq_some_iff.mp made
    obtain ⟨id, kept, last⟩ := Option.bind_eq_some_iff.mp rest
    obtain ⟨rfl, filled⟩ := Option.filter_eq_some_iff.mp kept
    exact ⟨id, same, by simpa using filled, (Option.some.inj last).symm⟩
  · rintro ⟨id, rfl, filled, rfl⟩
    rw [Option.bind_some, Option.filter_some_pos (by simpa using filled)]
    rfl

theorem UploadList.listed (uploads : UploadList) (list : DetailsList) :
    Listed UploadTells list.items uploads.items (uploads.videos.map list.complete) := by
  apply Listed.of_filterMap
  intro item video
  cases item with
  | none =>
    constructor
    · exact fun made => nomatch made
    · rintro ⟨_, _, ⟨⟨⟩, -, -⟩, -⟩
  | some s =>
    apply made_iff.trans
    constructor
    · rintro ⟨id, given, filled, rfl⟩
      exact ⟨id, s, ⟨rfl, given, filled⟩, rfl⟩
    · rintro ⟨id, _, ⟨⟨⟩, given, filled⟩, rfl⟩
      exact ⟨id, given, filled, rfl⟩

theorem SearchList.listed (found : SearchList) (list : DetailsList) :
    Listed FindTells list.items found.items (found.videos.map list.complete) := by
  apply Listed.of_filterMap
  intro item video
  apply made_iff.trans
  constructor
  · rintro ⟨id, given, filled, rfl⟩
    exact ⟨id, _, ⟨given, filled, rfl⟩, rfl⟩
  · rintro ⟨id, _, ⟨given, filled, rfl⟩, rfl⟩
    exact ⟨id, given, filled, rfl⟩

/-- The list of which a page is made, and the exchanges in which the channel told it. -/
inductive Lists (c : Client) (known : Credentials) (details : List Details) (page : VideoPage) :
    FeedCall → History → Prop
  | latest {r channels list told uploads}
      (place : (Question.channels known).read channels = .ok list)
      (read : (Question.uploads known list r).read told = .ok uploads)
      (listed : Listed UploadTells details uploads.items page.videos)
      (token : page.nextPageToken = uploads.nextPageToken) :
      Lists c known details page (.latest r)
        [c.exchange (.channels known, channels), c.exchange (.uploads known list r, told)]
  | search {query r told found}
      (read : (Question.search known (Text.trimmed query) r).read told = .ok found)
      (listed : Listed FindTells details found.items page.videos)
      (token : page.nextPageToken = found.nextPageToken) :
      Lists c known details page (.search query r)
        [c.exchange (.search known (Text.trimmed query) r, told)]

/-- The exchange in which the details of the videos of a page are told: none for an empty page, else
one that names the ids of the page in their order. -/
inductive Completes (c : Client) (known : Credentials) (page : VideoPage) :
    List Details → History → Prop
  | nothing (empty : page.videos = []) : Completes c known page [] []
  | asked {reply list} (some : page.videos ≠ [])
      (read : Client.outcomeOf DetailsList.decoder reply = .ok list) :
      Completes c known page list.items
        [(c.outgoing "videos"
          [("part", "contentDetails,statistics"), ("id", ",".intercalate (page.videos.map Video.id)),
            ("key", known.key)], reply)]

def Alike (videos : List Video) : Prop :=
  ∀ v ∈ videos, ∀ w ∈ videos, v.id = w.id → v.duration = w.duration ∧ v.viewCount = w.viewCount

theorem Listed.alike {ι : Type} {tells : ι → String → Snippet → Prop} {list : DetailsList}
    {items : List ι} {videos : List Video} (listed : Listed tells list.items items videos) :
    Alike videos := by
  intro v member w other same
  have first := lastDetails_iff.mp (listed.details_last v member)
  have second := lastDetails_iff.mp (listed.details_last w other)
  rw [← same] at second
  exact ⟨first.1.trans second.1.symm, first.2.trans second.2.symm⟩

/-- How a call for a page ends, with what was exchanged for it. -/
inductive Delivers (c : Client) (call : FeedCall) (cache : Cache) (now : Instant) :
    History → Except Fault VideoPage → Prop
  | kept {slot entry after} (place : call.slot? = some slot)
      (found : slot.look now cache = (some entry, after)) :
      Delivers c call cache now [] (.ok entry.page)
  | fetched {known details page first more} (has : c.credentials = some known)
      (lists : Lists c known details page call first) (completes : Completes c known page details more)
      (alike : Alike page.videos) : Delivers c call cache now (first ++ more) (.ok page)
  | stopped {asked fault} (stops : c.Stops asked fault) :
      Delivers c call cache now (asked.map c.exchange) (.error fault)

variable {c : Client} {known : Credentials} {call : FeedCall} {cache : Cache} {now : Instant}

theorem Completes.of_detailed {videos completed : List Video} {more : Inquiry}
    (detailed : Client.Detailed known videos more completed) (nextPageToken : Option String) :
    ∃ list : DetailsList, completed = videos.map list.complete ∧
      Completes c known ⟨completed, nextPageToken⟩ list.items (more.map c.exchange) := by
  have ids := detailed.ids
  cases detailed with
  | nothing empty =>
    rw [empty]
    exact ⟨⟨[]⟩, rfl, .nothing rfl⟩
  | @asked reply list some read =>
    refine ⟨list, rfl, ?_⟩
    have exchanged : [(Question.details known videos, reply)].map c.exchange =
        [(c.outgoing "videos" [("part", "contentDetails,statistics"),
          ("id", ",".intercalate ((videos.map list.complete).map Video.id)), ("key", known.key)],
          reply)] := by
      rw [ids]
      rfl
    rw [exchanged]
    apply Completes.asked ?_ read
    exact fun none => some (List.map_eq_nil_iff.mp none)

theorem Delivers.of_assembled {asked : Inquiry} {page : VideoPage}
    (assembled : call.Assembled c asked page) :
    Delivers c call cache now (asked.map c.exchange) (.ok page) := by
  cases assembled with
  | @latest r known channels list told uploads more videos has place read detailed =>
    obtain ⟨details, rfl, completes⟩ := Completes.of_detailed (c := c) detailed uploads.nextPageToken
    have listed := uploads.listed details
    exact .fetched has (.latest place read listed rfl) completes listed.alike
  | @search query r known told found more videos has read detailed =>
    obtain ⟨details, rfl, completes⟩ := Completes.of_detailed (c := c) detailed found.nextPageToken
    have listed := found.listed details
    exact .fetched has (.search read listed rfl) completes listed.alike

theorem Delivers.of_ends {asked : Inquiry} {outcome : Except Fault VideoPage}
    (ends : c.Ends (call.Assembled c) asked outcome) :
    Delivers c call cache now (asked.map c.exchange) outcome := by
  cases ends with
  | answered all assembled => exact .of_assembled assembled
  | stopped stops => exact .stopped stops

/-- Every call for a page ends in the page that its place in the cache holds, in the page that is put
together from the list and the details that were asked for, or in the fault of the question that was
not answered. -/
theorem pages_put_together (c : Client) (call : FeedCall) (s : Surroundings) (cache : Cache)
    (before : Transcript) :
    ∃ new, (runAct s cache before (call.perform c)).2.exchanges = before.exchanges ++ new ∧
      Delivers c call cache (s.clock before.looks) new
        (runAct s cache before (call.perform c)).1.1 := by
  obtain ⟨slot, mayUse, place, performed⟩ := call.perform_eq c
  rw [performed]
  cases mayUse with
  | false =>
    rw [runAct_cached_plain]
    obtain ⟨asked, exchanged, -, ends⟩ := call.fetch_assembles c s before
    exact ⟨asked.map c.exchange, congrArg Transcript.exchanges exchanged, .of_ends ends⟩
  | true =>
    rw [runAct_cached]
    cases looked : slot.look (s.clock before.looks) cache with
    | mk entry after =>
      cases entry with
      | some entry => exact ⟨[], (List.append_nil _).symm, .kept place looked⟩
      | none =>
        obtain ⟨asked, exchanged, -, ends⟩ := call.fetch_assembles c s before.looked
        refine ⟨asked.map c.exchange, ?_⟩
        dsimp only
        generalize runCall s before.looked (call.fetch c) = ran at exchanged ends
        obtain ⟨outcome, later⟩ := ran
        subst exchanged
        cases outcome with
        | ok page => exact ⟨rfl, .of_ends ends⟩
        | error fault => exact ⟨rfl, .of_ends ends⟩

end ParishSite.Feed
