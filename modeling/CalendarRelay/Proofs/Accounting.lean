import CalendarRelay.Gateway.Session
import CalendarRelay.Proofs.Course
import CalendarRelay.Proofs.History
import CalendarRelay.Proofs.Merging
import CalendarRelay.Proofs.Noting
import CalendarRelay.Proofs.Routing

namespace CalendarRelay

open Rule Journaled

namespace Rule

theorem isEvent_of_fate {rules : List Rule} {c d : Component} (h : (fate rules c).1 = some d) :
    d.isEvent = c.isEvent := by
  rcases exists_stage_of_fate h with hd | ⟨s, -, hd⟩
  · rw [hd]
  · rw [hd]
    rfl

/-- An event that comes in goes out or is removed. -/
theorem countP_isEvent_run (rules : List Rule) (components : List Component) :
    components.countP Component.isEvent = (run rules components).value.2.removed +
      (run rules components).value.1.countP Component.isEvent := by
  induction components with
  | nil => rfl
  | cons c rest ih =>
    rw [value_run_cons, stats_process, List.countP_cons, List.countP_append, ih]
    simp only [addStats]
    cases hfate : (fate rules c).1 with
    | some d =>
      simp [isEvent_of_fate hfate]
      omega
    | none =>
      have hevent : c.isEvent = true := by
        by_contra hother
        rw [fate_of_other (by simpa using hother)] at hfate
        simp at hfate
      simp [hevent]
      omega

end Rule

namespace Gateway

theorem Fault.noting_respond (e : Fault) : e.respond.Noting := by
  cases e <;> exact (noting_note _).bind (noting_pure _)

theorem Fault.status_respond (e : Fault) : e.respond.value.status = e.status := by
  cases e <;> rfl

theorem Feed.status_of_ask {feed : Feed} {url : String} {e : Fault}
    (h : feed.ask url = .error e) : e.status = 500 := by
  cases feed with
  | text content => simp [Feed.ask] at h
  | refused status body => exact Except.error.inj h ▸ rfl
  | unreachable detail => exact Except.error.inj h ▸ rfl

theorem Feed.eq_text_of_ask {feed : Feed} {url text : String} (h : feed.ask url = .ok text) :
    feed = .text text := by
  cases feed with
  | text content => exact congrArg Feed.text (Except.ok.inj h)
  | _ => simp [Feed.ask] at h

section

variable {feeds : String → Feed} {s : Source} {e : Fault}

/-- Whatever is wrong with a feed is an internal error to those who subscribe. -/
theorem Fails.status_eq (h : Fails (Feed.fetcher feeds) s e) : e.status = 500 := by
  cases h with
  | unavailable hfetch => exact Feed.status_of_ask hfetch
  | unreadable _ _ => rfl

theorem status_of_merge {sources : List Source}
    (h : (merge (Feed.fetcher feeds) sources).value = .error e) : e.status = 500 := by
  rcases sources_cases (Feed.fetcher feeds) sources with ⟨calendars, hall⟩ |
    ⟨before, calendars, s, rest, fault, hsplit, hbefore, hs⟩
  · cases hall with
    | nil =>
      have he : Fault.internal _ = e := Except.error.inj h
      exact he ▸ rfl
    | cons hfirst hothers =>
      rw [(merge_of_all_give (.cons hfirst hothers)).1] at h
      simp at h
  · rw [hsplit, (merge_of_first_fails hbefore hs rest).1] at h
    exact Except.error.inj h ▸ hs.status_eq

end

section

variable {fetch : Fetcher} {s : Source} {c : Component} {e : Fault}

theorem moves_gather (fetch : Fetcher) (sources : List Source) :
    Entry.moves (gather fetch sources).journal = [] := by
  induction sources with
  | nil => rfl
  | cons s rest ih =>
    rcases gives_or_fails fetch s with ⟨c, hs⟩ | ⟨e, hs⟩
    · rw [gather_ok hs.value_askCalendar]
      exact ih
    · rw [gather_error hs.value_askCalendar]
      rfl

theorem moves_merge (fetch : Fetcher) (sources : List Source) :
    Entry.moves (merge fetch sources).journal = [] := by
  rw [journal_merge, moves_gather]

theorem renderFiltered_of_fails (h : Fails fetch s e) (name : String) (rules : List Rule) :
    renderFiltered fetch name s.url rules = ⟨.error e, [.fetch s.url]⟩ := by
  apply Journaled.ext
  · rw [renderFiltered, Journaled.value_bind, h.value_askCalendar]
    rfl
  · rw [renderFiltered, Journaled.journal_bind, h.value_askCalendar, journal_askCalendar]
    rfl

theorem renderFiltered_of_gives (h : Gives fetch s c) (name : String) {rules : List Rule}
    {out : List Component} {stats : Stats}
    (hrun : (Rule.run rules c.components).value = (out, stats)) :
    (renderFiltered fetch name s.url rules).value = .ok { c with components := out } ∧
      Entry.moves (renderFiltered fetch name s.url rules).journal =
        [(.eventsProcessed, stats.events), (.eventsRemoved, stats.removed)] ∧
      Entry.fetches (renderFiltered fetch name s.url rules).journal = [s.url] := by
  have hnoting := Rule.noting_run rules c.components
  have hjournal : (renderFiltered fetch name s.url rules).journal =
      [Entry.fetch s.url] ++ ((Rule.run rules c.components).journal ++
        [Entry.count .eventsProcessed stats.events, Entry.count .eventsRemoved stats.removed,
          Entry.note (.rulesApplied name stats.events stats.removed stats.rulesMatched)]) := by
    rw [renderFiltered, Journaled.journal_bind, h.value_askCalendar, journal_askCalendar]
    dsimp only
    rw [Journaled.journal_bind, hrun]
    rfl
  refine ⟨?_, ?_, ?_⟩
  · rw [renderFiltered, Journaled.value_bind, h.value_askCalendar]
    dsimp only
    rw [Journaled.value_bind, hrun]
    rfl
  · rw [hjournal, Entry.moves_append, Entry.moves_append, hnoting.moves_eq]
    rfl
  · rw [hjournal, Entry.fetches_append, Entry.fetches_append, hnoting.fetches_eq]
    rfl

end

section

variable {server : Server} {file : String} {d : Definition} {c : Component} {e : Fault}

theorem serveFile_of_not_found (h : definition? server.store file = .error e) :
    serveFile server file = e.respond := by
  rw [serveFile, h]

theorem serveFile_of_ok (hd : definition? server.store file = .ok d)
    (hc : (render server.fetch d).value = .ok c) : serveFile server file =
      ⟨.contentType "text/calendar" 200 c.toText,
        (render server.fetch d).journal ++ [Entry.count (.calendarRequests d.kind "ok") 1]⟩ := by
  rw [serveFile, hd]
  apply Journaled.ext
  · rw [Journaled.value_bind, hc]
    rfl
  · rw [Journaled.journal_bind, hc]
    rfl

theorem serveFile_of_error (hd : definition? server.store file = .ok d)
    (he : (render server.fetch d).value = .error e) : serveFile server file =
      ⟨e.respond.value, (render server.fetch d).journal ++
        ([Entry.count (.calendarRequests d.kind "error") 1] ++ e.respond.journal)⟩ := by
  rw [serveFile, hd]
  apply Journaled.ext
  · rw [Journaled.value_bind, he]
    rfl
  · rw [Journaled.journal_bind, he]
    rfl

end

section

variable (server : Server) {request : Request} {d : Definition}

theorem noting_serveRead {route : Route} (h : ∀ segment file d, route = .file segment →
    decodeSegment? segment = some file → definition? server.store file ≠ .ok d) :
    (serveRead server route).Noting := by
  cases route with
  | file segment =>
    rw [serveRead, serveSegment]
    split
    · rename_i file hdecode
      cases hd : definition? server.store file with
      | error e =>
        rw [serveFile_of_not_found hd]
        exact e.noting_respond
      | ok d => exact absurd hd (h segment file d rfl hdecode)
    · exact noting_pure _
  | _ => exact noting_pure _

/-- A request that reads no calendar is answered without counting and without asking. -/
theorem noting_dispatch (h : ¬ ∃ d, Reads server.store request d) :
    (dispatch server request.method (.ofTarget request.target)).Noting := by
  have hread (hmethod : request.method = "GET" ∨ request.method = "HEAD") :
      (serveRead server (.ofTarget request.target)).Noting := by
    apply noting_serveRead server
    intro segment file d hroute hdecode hd
    exact h ⟨d, reads_iff.mpr ⟨hmethod, segment, file, hroute, hdecode, hd⟩⟩
  rw [dispatch]
  split
  · exact noting_pure _
  · split_ifs with hunmatched hget hhead
    · exact noting_pure _
    · exact hread (.inl hget)
    · exact (hread (.inr hhead)).bind (noting_pure _)
    · exact noting_pure _

/-- A request that reads a calendar is answered with it, without its text if it asks for the head
only. -/
theorem dispatch_of_reads (h : Reads server.store request d) : ∃ file,
    definition? server.store file = .ok d ∧
      dispatch server request.method (.ofTarget request.target) =
        (fun r => { r with body := if request.method = "HEAD" then "" else r.body }) <$>
          serveFile server file := by
  obtain ⟨hmethod, segment, file, hroute, hdecode, hd⟩ := reads_iff.mp h
  refine ⟨file, hd, ?_⟩
  have hread : serveRead server (.file segment) = serveFile server file := by
    rw [serveRead, serveSegment, hdecode]
  rw [hroute]
  rcases hmethod with hget | hhead
  · simp [dispatch, hget, hread]
  · simp [dispatch, hhead, hread]

end

section

variable (server : Server) (fresh : String) (request : Request)

theorem value_answer : (answer server fresh request).value =
    let response := (dispatch server request.method (.ofTarget request.target)).value
    { response with headers := response.headers ++ [("access-control-allow-origin", "*"),
        ("x-request-id", requestId request.headers fresh)] } := rfl

theorem moves_answer : Entry.moves (answer server fresh request).journal =
    Entry.moves (dispatch server request.method (.ofTarget request.target)).journal ++
      [(Counter.httpRequests request.method (Route.ofTarget request.target).label
        (answer server fresh request).value.status, 1)] := by
  rw [answer, Journaled.journal_bind, Entry.moves_append]
  rfl

theorem fetches_answer : Entry.fetches (answer server fresh request).journal =
    Entry.fetches (dispatch server request.method (.ofTarget request.target)).journal := by
  rw [answer, Journaled.journal_bind, Entry.fetches_append]
  exact List.append_nil _

end

/-- How a request for a calendar is accounted for: by the moves of the counters of events, by those
of the counter of calendars, and by the feeds that are asked for. -/
structure Accounted (feeds : String → Feed) (request : Request) (d : Definition)
    (status : Nat) (body : String) (events calendar : List (Counter × Nat))
    (fetches : List String) : Prop where
  outcome : status = 200 ∧ calendar = [(.calendarRequests d.kind "ok", 1)] ∨
    status = 500 ∧ calendar = [(.calendarRequests d.kind "error", 1)]
  counted_iff : events ≠ [] ↔ (∃ name url rules, d = .filtered name url rules) ∧ status = 200
  fetches_eq : ∀ name url rules, d = .filtered name url rules → fetches = [url]
  events_eq : ∀ name url rules, d = .filtered name url rules → status = 200 →
    ∃ text upstream served processed removed,
      feeds url = .text text ∧ Document.read text = .ok upstream ∧
      served = { upstream with components := (Rule.run rules upstream.components).value.1 } ∧
      body = (if request.method = "HEAD" then "" else served.toText) ∧
      events = [(.eventsProcessed, processed), (.eventsRemoved, removed)] ∧
      processed = upstream.components.countP Component.isEvent ∧
      processed = removed + served.components.countP Component.isEvent

/-- What is done to serve a file is what its calendar is accounted for, once the text is left out of
the response to a request for the head. -/
def Accounts (feeds : String → Feed) (request : Request) (d : Definition)
    (served : Journaled Response) : Prop :=
  ∃ events calendar, Entry.moves served.journal = events ++ calendar ∧
    Accounted feeds request d served.value.status
      (if request.method = "HEAD" then "" else served.value.body) events calendar
      (Entry.fetches served.journal)

section

variable {server : Server} {feeds : String → Feed} {file : String} {d : Definition}

theorem accounts_of_error (request : Request) (hserver : server.fetch = Feed.fetcher feeds)
    (hd : definition? server.store file = .ok d) {e : Fault}
    (he : (render (Feed.fetcher feeds) d).value = .error e) (hstatus : e.status = 500)
    (hmoves : Entry.moves (render (Feed.fetcher feeds) d).journal = [])
    (hfetches : ∀ name url rules, d = .filtered name url rules →
      Entry.fetches (render (Feed.fetcher feeds) d).journal = [url]) :
    Accounts feeds request d (serveFile server file) := by
  rw [← hserver] at he hmoves hfetches
  rw [Accounts, serveFile_of_error hd he]
  dsimp only
  rw [e.status_respond, hstatus]
  refine ⟨[], [(.calendarRequests d.kind "error", 1)], ?_, ?_⟩
  · rw [Entry.moves_append, Entry.moves_append, hmoves, e.noting_respond.moves_eq]
    rfl
  · refine ⟨.inr ⟨rfl, rfl⟩, by simp, ?_, ?_⟩
    · intro name url rules hfiltered
      rw [Entry.fetches_append, Entry.fetches_append, hfetches name url rules hfiltered,
        e.noting_respond.fetches_eq]
      rfl
    · intro _ _ _ _ hok
      simp at hok

theorem accounts_filtered (request : Request) (hserver : server.fetch = Feed.fetcher feeds)
    {name url : String} {rules : List Rule}
    (hd : definition? server.store file = .ok (.filtered name url rules)) :
    Accounts feeds request (.filtered name url rules) (serveFile server file) := by
  rcases gives_or_fails (Feed.fetcher feeds) ⟨url, false⟩ with ⟨c, hc⟩ | ⟨e, he⟩
  · obtain ⟨⟨out, stats⟩, hrun⟩ : ∃ ran, (Rule.run rules c.components).value = ran := ⟨_, rfl⟩
    obtain ⟨hvalue, hmoves, hfetches⟩ := renderFiltered_of_gives hc name hrun
    obtain ⟨text, hfetch, hread⟩ := hc
    have hfeed : feeds url = .text text := Feed.eq_text_of_ask hfetch
    have hevents := Rule.events_run rules c.components
    have hcount := Rule.countP_isEvent_run rules c.components
    rw [hrun] at hevents hcount
    rw [← hserver] at hvalue hmoves hfetches
    rw [Accounts, serveFile_of_ok hd hvalue]
    refine ⟨[(.eventsProcessed, stats.events), (.eventsRemoved, stats.removed)],
      [(.calendarRequests "filtered" "ok", 1)], ?_, ?_⟩
    · rw [Entry.moves_append, render, hmoves]
      rfl
    · refine ⟨.inl ⟨rfl, rfl⟩, by simp [Response.contentType], ?_, ?_⟩
      · intro name' url' rules' hsame
        rw [Entry.fetches_append, render, hfetches, (Definition.filtered.inj hsame).2.1]
        rfl
      · intro name' url' rules' hsame _
        obtain ⟨-, hurl, hrules⟩ := Definition.filtered.inj hsame
        refine ⟨text, c, { c with components := out }, stats.events, stats.removed,
          hurl ▸ hfeed, hread, ?_, rfl, rfl, hevents, hevents.trans hcount⟩
        rw [← hrules, hrun]
  · have hrender := renderFiltered_of_fails he name rules
    have hvalue := congrArg Journaled.value hrender
    have hjournal := congrArg Journaled.journal hrender
    refine accounts_of_error request hserver hd hvalue he.status_eq ?_ ?_
    · rw [render, hjournal]
      rfl
    · intro name' url' rules' hsame
      rw [render, hjournal, (Definition.filtered.inj hsame).2.1]
      rfl

theorem accounts_merged (request : Request) (hserver : server.fetch = Feed.fetcher feeds)
    {name : String} {sources : List Source}
    (hd : definition? server.store file = .ok (.merged name sources)) :
    Accounts feeds request (.merged name sources) (serveFile server file) := by
  have hmoves := moves_merge (Feed.fetcher feeds) sources
  cases hvalue : (merge (Feed.fetcher feeds) sources).value with
  | error e =>
    exact accounts_of_error request hserver hd hvalue (status_of_merge hvalue) hmoves (by simp)
  | ok c =>
    rw [← hserver] at hmoves hvalue
    rw [Accounts, serveFile_of_ok hd hvalue]
    refine ⟨[], [(.calendarRequests "merged" "ok", 1)], ?_, ?_⟩
    · rw [Entry.moves_append, render, hmoves]
      rfl
    · exact ⟨.inl ⟨rfl, rfl⟩, by simp, by simp, by simp⟩

theorem accounts_serveFile (request : Request) (hserver : server.fetch = Feed.fetcher feeds)
    (hd : definition? server.store file = .ok d) :
    Accounts feeds request d (serveFile server file) := by
  cases d with
  | filtered name url rules => exact accounts_filtered request hserver hd
  | merged name sources => exact accounts_merged request hserver hd

end

theorem handle_request (server : Server) (fresh : String) (request : Request) :
    server.handle (.request fresh request) =
      ⟨(server, .responded (answer server fresh request).value),
        (answer server fresh request).journal⟩ :=
  Journaled.ext rfl (List.append_nil _)

/-- The document that an event brings to the store. -/
def Event.document? : Event → Option Json
  | reload document => some document
  | request _ _ => none

theorem value_handle (server : Server) (event : Event) : (server.handle event).value.1 =
    { server with store := server.store.replay event.document?.toList } := by
  cases event with
  | request fresh request => rfl
  | reload document =>
    rw [Server.handle, Journaled.value_bind]
    have hreplay : server.store.replay [document] = server.store.reloaded document := rfl
    simp only [Event.document?, Option.toList, hreplay, Store.reloaded]
    cases (server.store.reload document).value <;> rfl

/-- Whatever happens to a server, its store is what the reloads have made of it. -/
theorem value_run (server : Server) (events : List Event) : (server.run events).value.1 =
    { server with store := server.store.replay (events.filterMap Event.document?) } := by
  induction events generalizing server with
  | nil => rfl
  | cons event rest ih =>
    have hrun : (server.run (event :: rest)).value.1 =
        ((server.handle event).value.1.run rest).value.1 := rfl
    rw [hrun, ih, value_handle]
    cases hdocument : event.document? with
    | none => simp [hdocument, Store.replay]
    | some document => simp [hdocument, Store.replay]

/-- Every request is answered and counted once, with the status of its response, and leaves the
server as it is, so that what becomes of the store depends on the reloads alone. A request that
reads no calendar moves no other counter and asks for no feed; one that reads a calendar is
accounted for by what comes of it. -/
theorem handle_request_accounted (service : String) (store : Store) (feeds : String → Feed)
    (fresh : String) (request : Request) :
    let server : Server := ⟨service, store, Feed.fetcher feeds⟩
    (∃ response journal events calendar,
      server.handle (.request fresh request) = ⟨(server, .responded response), journal⟩ ∧
      Entry.moves journal = events ++ calendar ++ [(Counter.httpRequests request.method
        (Route.ofTarget request.target).label response.status, 1)] ∧
      ((¬ ∃ d, Reads store request d) →
        events = [] ∧ calendar = [] ∧ Entry.fetches journal = []) ∧
      ∀ d, Reads store request d → Accounted feeds request d response.status response.body
        events calendar (Entry.fetches journal)) ∧
    ∀ happened, (server.run happened).value.1.store =
      store.replay (happened.filterMap Event.document?) := by
  intro server
  refine ⟨?_, fun happened => by rw [value_run]⟩
  have hhandle := handle_request server fresh request
  by_cases hreads : ∃ d, Reads store request d
  · obtain ⟨d, hd⟩ := hreads
    obtain ⟨file, hfile, hdispatch⟩ := dispatch_of_reads server hd
    obtain ⟨events, calendar, hmoves, haccounted⟩ := accounts_serveFile request rfl hfile
    refine ⟨_, _, events, calendar, hhandle, ?_, ?_, ?_⟩
    · rw [moves_answer, hdispatch, Journaled.journal_map, hmoves]
    · intro hnone
      exact absurd ⟨d, hd⟩ hnone
    · intro d' hd'
      have hsame : d' = d := hd'.unique hd
      rw [fetches_answer, value_answer, hdispatch, Journaled.journal_map, hsame]
      exact haccounted
  · have hnoting := noting_dispatch server hreads
    refine ⟨_, _, [], [], hhandle, ?_, ?_, ?_⟩
    · rw [moves_answer, hnoting.moves_eq]
      rfl
    · intro _
      exact ⟨rfl, rfl, (fetches_answer server fresh request).trans hnoting.fetches_eq⟩
    · intro d hd
      exact absurd ⟨d, hd⟩ hreads

def skipRehearsals : Rule where
  filter := moveRehearsals.filter
  operations := [.remove]

/-- The calendar of the choir without its rehearsals. -/
def concerts : Definition :=
  .filtered "concerts" "https://example.com/choir.ics" [skipRehearsals]

def concertStore : Store := { snapshot := { definitions := [("concerts", concerts)] } }

/-- A town where nothing but the choir can be reached. -/
def choirFeed : String → Feed := fun url =>
  if url = "https://example.com/choir.ics" then .text Component.choirText
  else .unreachable url

def concertServer : Server := ⟨"calendar-proxy", concertStore, Feed.fetcher choirFeed⟩

/-- The head of the calendar of concerts is asked for, with a letter of its name in percent signs
and a query. -/
def concertRequest : Request := { method := "HEAD", target := "/c%6Fncerts.ics?week=23" }

theorem reads_concertRequest : Reads concertStore concertRequest concerts where
  method := .inr rfl
  path := by
    refine ⟨"c%6Fncerts.ics".toList, "concerts", ?_, ?_, ?_, rfl⟩
    · decide +kernel
    · decide +kernel
    · decide +kernel

theorem value_run_concerts : (Rule.run [skipRehearsals] Component.choir.components).value =
    ([], { events := 1, removed := 1, rulesMatched := 1 }) := by decide +kernel

theorem handle_request_accounted_concerts : Reads concertStore concertRequest concerts ∧
    ∃ response journal,
      concertServer.handle (.request "1" concertRequest) =
        ⟨(concertServer, .responded response), journal⟩ ∧
      response.status = 200 ∧ response.body = "" ∧
      Entry.moves journal = [(.eventsProcessed, 1), (.eventsRemoved, 1),
        (.calendarRequests "filtered" "ok", 1),
        (.httpRequests "HEAD" "/\x7bfile\x7d" 200, 1)] ∧
      Entry.fetches journal = ["https://example.com/choir.ics"] := by
  obtain ⟨⟨response, journal, events, calendar, hhandle, hmoves, -, haccounted⟩, -⟩ :=
    handle_request_accounted "calendar-proxy" concertStore choirFeed "1" concertRequest
  have hresponse : (answer concertServer "1" concertRequest).value = response :=
    Outcome.responded.inj (congrArg (fun x => x.value.2) hhandle)
  have hgives : Gives (Feed.fetcher choirFeed) ⟨"https://example.com/choir.ics", false⟩
      Component.choir := ⟨Component.choirText, rfl, Component.read_choirText⟩
  have hstatus : response.status = 200 := by
    obtain ⟨file, hfile, hdispatch⟩ := dispatch_of_reads concertServer reads_concertRequest
    have hrender := (renderFiltered_of_gives hgives "concerts" value_run_concerts).1
    rw [← hresponse, value_answer, hdispatch, serveFile_of_ok hfile hrender]
    rfl
  have hlabel : (Route.ofTarget concertRequest.target).label = "/\x7bfile\x7d" := by
    decide +kernel
  obtain ⟨houtcome, -, hfetches, hevents⟩ := haccounted concerts reads_concertRequest
  obtain ⟨text, upstream, served, processed, removed, htext, hread, hserved, hbody, hcounts,
    hprocessed, hremoved⟩ := hevents _ _ _ rfl hstatus
  have htext : Component.choirText = text := Feed.text.inj htext
  have hupstream : Component.choir = upstream := by
    rw [← htext, Component.read_choirText] at hread
    exact Except.ok.inj hread
  have hnone : served.components = [] := by
    rw [hserved, ← hupstream]
    exact congrArg Prod.fst value_run_concerts
  have hone : processed = 1 := by
    rw [hprocessed, ← hupstream]
    rfl
  have hgone : removed = 1 := by
    rw [hnone, hone] at hremoved
    exact hremoved.symm
  have hcalendar : calendar = [(.calendarRequests "filtered" "ok", 1)] := by
    rcases houtcome with ⟨-, hok⟩ | ⟨herror, -⟩
    · exact hok
    · simp [hstatus] at herror
  refine ⟨reads_concertRequest, response, journal, hhandle, hstatus, ?_, ?_, ?_⟩
  · rw [hbody, if_pos (show concertRequest.method = "HEAD" from rfl)]
  · rw [hmoves, hcounts, hcalendar, hone, hgone, hlabel, hstatus]
    rfl
  · exact hfetches _ _ _ rfl

end Gateway

end CalendarRelay
