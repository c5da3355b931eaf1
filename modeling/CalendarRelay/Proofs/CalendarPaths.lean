import CalendarRelay.Proofs.Accounting
import CalendarRelay.Proofs.Loading

namespace CalendarRelay

open Text

namespace Store

/-- Every definition stands under its own name, and that is a name that calendars may have. -/
def WellNamed (s : Store) : Prop :=
  ∀ entry ∈ s.snapshot.definitions,
    entry.2.name = entry.1 ∧ Address.isCalendarName entry.1 = true

theorem mem_definitions_of_get? {s : Snapshot} {name : String} {d : Definition}
    (h : s.get? name = some d) : (name, d) ∈ s.definitions := by
  obtain ⟨⟨key, found⟩, hfind, hd⟩ := Option.map_eq_some_iff.mp h
  have hkey : key = name := by simpa using List.find?_some hfind
  have hmem := List.mem_of_find?_eq_some hfind
  rwa [hkey, show found = d from hd] at hmem

theorem wellNamed_of_ofJson {name : String} {j : Json} {d : Definition}
    (h : Definition.ofJson name j = .ok d) :
    d.name = name ∧ Address.isCalendarName name = true := by
  refine ⟨Definition.name_of_ofJson h, ?_⟩
  by_contra hname
  rw [Definition.ofJson, if_neg hname] at h
  simp at h

theorem WellNamed.reloaded {s : Store} (h : s.WellNamed) (document : Json) :
    (s.reloaded document).WellNamed := by
  cases hfields : document.fields? with
  | none => rwa [reloaded_of_fields?_eq_none s hfields]
  | some fields =>
    have hdocument : document = .obj fields := by
      cases document <;> simp_all [Json.fields?]
    have hdefinitions : (s.reloaded (.obj fields)).snapshot.definitions =
        (outcomes s.snapshot fields).value.filterMap fun f =>
          f.2.definition?.map fun d => (f.1, d) := rfl
    intro entry hentry
    rw [hdocument, hdefinitions, value_outcomes, List.filterMap_map, List.mem_filterMap] at hentry
    obtain ⟨f, -, hf⟩ := hentry
    obtain ⟨d, hd, rfl⟩ := Option.map_eq_some_iff.mp hf
    -- what is not read from the document is kept from before
    rw [definition?_outcome, Option.or_eq_some_iff] at hd
    rcases hd with hread | ⟨-, hkept⟩
    · cases hj : Definition.ofJson f.1 f.2 with
      | ok found =>
        have hfound : found = d := by simpa [hj, Except.toOption] using hread
        exact hfound ▸ wellNamed_of_ofJson hj
      | error fault => simp [hj, Except.toOption] at hread
    · exact h _ (mem_definitions_of_get? hkept)

theorem wellNamed_replay (documents : List Json) : (replay {} documents).WellNamed := by
  induction documents using List.reverseRecOn with
  | nil => exact fun _ h => absurd h (List.not_mem_nil)
  | append_singleton documents document ih =>
    have hreplay : replay {} (documents ++ [document]) =
        (replay {} documents).reloaded document := by simp [replay]
    exact hreplay ▸ ih.reloaded document

theorem WellNamed.of_get? {s : Store} (h : s.WellNamed) {name : String} {d : Definition}
    (hd : s.snapshot.get? name = some d) :
    d.name = name ∧ Address.isCalendarName name = true :=
  h _ (mem_definitions_of_get? hd)

end Store

namespace Gateway

section Decoding

variable {cs : List Char}

theorem percentDecode_of_not_mem (h : '%' ∉ cs) :
    percentDecode cs = cs.flatMap String.utf8EncodeChar := by
  induction cs with
  | nil => rfl
  | cons c cs ih =>
    simp only [List.mem_cons, not_or] at h
    rw [percentDecode, ih h.2, List.flatMap_cons]
    rintro a b rest rfl
    exact absurd rfl h.1

/-- A segment without percent signs stands for itself. -/
theorem decodeSegment?_of_not_mem (h : '%' ∉ cs) : decodeSegment? cs = some (String.ofList cs) := by
  have hbytes : ByteArray.mk (percentDecode cs).toArray = (String.ofList cs).toUTF8 := by
    rw [percentDecode_of_not_mem h, String.toUTF8_eq_toByteArray, String.toByteArray_ofList,
      List.utf8Encode]
    exact ByteArray.ext (List.data_toByteArray).symm
  rw [decodeSegment?, hbytes]
  exact DefinitionFile.fromUTF8?_toUTF8 _

/-- What comes after a question mark does not belong to a path. -/
theorem Route.pathOf_append {rest : List Char} (h : ∀ c ∈ cs, c ≠ '?' ∧ c ≠ '#')
    (hrest : rest.head?.all (· == '?') = true) : pathOf ('/' :: (cs ++ rest)) = '/' :: cs := by
  have hrun : ∀ c ∈ '/' :: cs, (c != '?' && c != '#') = true := by
    intro c hc
    rcases List.mem_cons.mp hc with rfl | hc
    · rfl
    · simpa using h c hc
  have hstop : rest.head?.all (fun c => !(c != '?' && c != '#')) = true := by
    cases rest with
    | nil => rfl
    | cons c rest =>
      have hc : c = '?' := by simpa using hrest
      simp [hc]
  have htake := (Document.while_append hrun hstop).1
  rw [List.cons_append] at htake
  rw [pathOf, htake]
  rfl

end Decoding

/-- A target whose path is one segment that is not empty and stands for a file. -/
def LeadsTo (target file : String) : Prop :=
  ∃ segment, Route.pathOf target.toList = '/' :: segment ∧ segment ≠ [] ∧ '/' ∉ segment ∧
    decodeSegment? segment = some file

theorem LeadsTo.unique {target file file' : String} (h : LeadsTo target file)
    (h' : LeadsTo target file') : file = file' := by
  obtain ⟨segment, hpath, -, -, hdecode⟩ := h
  obtain ⟨segment', hpath', -, -, hdecode'⟩ := h'
  have hsegment : segment = segment' := (List.cons.inj (hpath.symm.trans hpath')).2
  rw [hsegment, hdecode'] at hdecode
  exact (Option.some.inj hdecode).symm

theorem append_calendarSuffix_inj {a b : String} (h : a ++ calendarSuffix = b ++ calendarSuffix) :
    a = b := by
  have hlists := congrArg String.toList h
  rw [String.toList_append, String.toList_append] at hlists
  exact String.toList_inj.mp (List.append_cancel_right hlists)

theorem isNameChar_ne {c : Char} (h : Address.isNameChar c = true) :
    c ≠ '/' ∧ c ≠ '?' ∧ c ≠ '#' ∧ c ≠ '%' := by
  refine ⟨?_, ?_, ?_, ?_⟩ <;> rintro rfl <;> revert h <;> decide

/-- The name of a calendar with the suffix is a path as it stands, whatever is asked of it. -/
theorem leadsTo_of_isCalendarName {name query : String} (h : Address.isCalendarName name = true)
    (hquery : query.toList.head?.all (· == '?') = true) :
    LeadsTo ("/" ++ name ++ calendarSuffix ++ query) (name ++ calendarSuffix) := by
  have hchars : ∀ c ∈ (name ++ calendarSuffix).toList, c ≠ '/' ∧ c ≠ '?' ∧ c ≠ '#' ∧ c ≠ '%' := by
    intro c hc
    rw [String.toList_append, List.mem_append] at hc
    rcases hc with hc | hc
    · exact isNameChar_ne (List.all_eq_true.mp (Bool.and_eq_true _ _ ▸ h).2 c hc)
    · have hsuffix : calendarSuffix.toList.all
          (fun c => c ≠ '/' ∧ c ≠ '?' ∧ c ≠ '#' ∧ c ≠ '%') = true := by decide
      simpa using List.all_eq_true.mp hsuffix c hc
  have htarget : ("/" ++ name ++ calendarSuffix ++ query).toList =
      '/' :: ((name ++ calendarSuffix).toList ++ query.toList) := by
    simp only [String.toList_append, List.append_assoc]
    rfl
  refine ⟨(name ++ calendarSuffix).toList, ?_, ?_, fun hc => (hchars _ hc).1 rfl, ?_⟩
  · rw [htarget]
    exact Route.pathOf_append (fun c hc => ⟨(hchars c hc).2.1, (hchars c hc).2.2.1⟩) hquery
  · rw [Ne, String.toList_eq_nil_iff]
    exact append_calendarSuffix_ne_empty name
  · rw [decodeSegment?_of_not_mem fun hc => (hchars _ hc).2.2.2 rfl, String.ofList_toList]

/-- The response that a definition is served with. -/
def serveDefinition (server : Server) (d : Definition) : Journaled Response := do
  match ← render server.fetch d with
  | .ok calendar =>
    Journaled.count (.calendarRequests d.kind "ok")
    return .contentType "text/calendar" 200 calendar.toText
  | .error e =>
    Journaled.count (.calendarRequests d.kind "error")
    e.respond

theorem serveFile_eq_serveDefinition {server : Server} {file : String} {d : Definition}
    (h : definition? server.store file = .ok d) :
    serveFile server file = serveDefinition server d := by
  rw [serveFile, h]
  rfl

/-- A request that is answered with a definition of the store: it is the one that is found for the
file, and the response, the counters and the feeds asked for are those of serving it. -/
structure AnsweredWith (server : Server) (fresh : String) (request : Request)
    (d : Definition) : Prop where
  found : ∃ segment file, Route.ofTarget request.target = .file segment ∧
    decodeSegment? segment = some file ∧ definition? server.store file = .ok d
  status : (answer server fresh request).value.status = (serveDefinition server d).value.status
  body : (answer server fresh request).value.body = (serveDefinition server d).value.body
  moves : Entry.moves (answer server fresh request).journal =
    Entry.moves (serveDefinition server d).journal ++ [(.httpRequests request.method
      (Route.ofTarget request.target).label (answer server fresh request).value.status, 1)]
  fetches : Entry.fetches (answer server fresh request).journal =
    Entry.fetches (serveDefinition server d).journal

section

variable {server : Server} {fresh : String} {request : Request} {d : Definition}

/-- The definition that is found is the one that is answered with. -/
theorem answeredWith_iff (hmethod : request.method = "GET") :
    AnsweredWith server fresh request d ↔ Reads server.store request d := by
  rw [reads_iff]
  constructor
  · exact fun h => ⟨.inl hmethod, h.found⟩
  · rintro ⟨-, segment, file, hroute, hdecode, hd⟩
    have hdispatch : dispatch server request.method (.ofTarget request.target) =
        serveDefinition server d := by
      rw [← serveFile_eq_serveDefinition hd, hmethod, hroute]
      simp [dispatch, serveRead, serveSegment, hdecode]
    refine ⟨⟨segment, file, hroute, hdecode, hd⟩, ?_, ?_, ?_, ?_⟩
    · rw [value_answer, hdispatch]
    · rw [value_answer, hdispatch]
    · rw [moves_answer, hdispatch]
    · rw [fetches_answer, hdispatch]

/-- Reading a calendar is being led to the file that it is named after. -/
theorem exists_reads_iff (hmethod : request.method = "GET") (hnamed : server.store.WellNamed)
    (name : String) : (∃ d, Reads server.store request d ∧ d.name = name) ↔
      name ∈ server.store.snapshot.names ∧ LeadsTo request.target (name ++ calendarSuffix) := by
  rw [Snapshot.mem_names_iff, Option.isSome_iff_exists]
  constructor
  · rintro ⟨d, hd, rfl⟩
    obtain ⟨segment, name, hpath, hslash, hdecode, hget⟩ := hd.path
    rw [(hnamed.of_get? hget).1]
    refine ⟨⟨d, hget⟩, segment, hpath, ?_, hslash, hdecode⟩
    rintro rfl
    rw [decodeSegment?_nil] at hdecode
    exact append_calendarSuffix_ne_empty name (Option.some.inj hdecode).symm
  · rintro ⟨⟨d, hget⟩, segment, hpath, -, hslash, hdecode⟩
    exact ⟨d, ⟨.inl hmethod, segment, name, hpath, hslash, hdecode, hget⟩,
      (hnamed.of_get? hget).1⟩

theorem definition?_eq_notFound {store : Store} {file : String}
    (h : ∀ name ∈ store.snapshot.names, file ≠ name ++ calendarSuffix) :
    ∃ name, definition? store file = .error (.notFound name) := by
  rw [definition?]
  cases hname : calendarName? file with
  | none => exact ⟨file, rfl⟩
  | some name =>
    cases hget : store.snapshot.get? name with
    | none => exact ⟨name, by simp [hget]⟩
    | some d =>
      have hmem : name ∈ store.snapshot.names := by
        rw [Snapshot.mem_names_iff, hget]
        rfl
      exact absurd (calendarName?_eq_some_iff.mp hname) (h name hmem)

/-- A file that no calendar is named after is not found, and no feed is asked for it. -/
theorem answer_of_notFound (hmethod : request.method = "GET") {file : String}
    (hfile : LeadsTo request.target file)
    (hhealth : Route.pathOf request.target.toList ≠ "/health".toList)
    (h : ∀ name ∈ server.store.snapshot.names, file ≠ name ++ calendarSuffix) :
    (answer server fresh request).value.status = 404 ∧
      Entry.fetches (answer server fresh request).journal = [] := by
  obtain ⟨segment, hpath, hnil, hslash, hdecode⟩ := hfile
  obtain ⟨name, hname⟩ := definition?_eq_notFound h
  have hroute : Route.ofTarget request.target = .file segment := by
    refine Route.ofTarget_eq_file_iff.mpr ⟨hpath, hnil, ?_, hslash⟩
    rintro rfl
    exact hhealth hpath
  have hdispatch : dispatch server request.method (.ofTarget request.target) =
      Fault.respond (.notFound name) := by
    rw [← serveFile_of_not_found hname, hmethod, hroute]
    simp [dispatch, serveRead, serveSegment, hdecode]
  rw [value_answer, fetches_answer, hdispatch, (Fault.noting_respond _).fetches_eq]
  exact ⟨Fault.status_respond (.notFound name), rfl⟩

end

/-- After any reloads, a request is answered with the calendar of a name exactly if the path of its
target is one segment that stands for the name with the suffix, so that the calendar is found under
its name as it stands, with or without a query. No path is for two calendars, and one that is for
none is not found, unless it is the one that leads to the state of the service. -/
theorem answeredWith_iff_leadsTo (documents : List Json) (service : String) (fetch : Fetcher)
    (fresh : String) (request : Request) (hmethod : request.method = "GET") :
    let server : Server := ⟨service, Store.replay {} documents, fetch⟩
    let names := server.store.snapshot.names
    (∀ name, (∃ d, AnsweredWith server fresh request d ∧ d.name = name) ↔
      name ∈ names ∧ LeadsTo request.target (name ++ calendarSuffix)) ∧
    (∀ name ∈ names, ∀ query : String, query.toList.head?.all (· == '?') = true →
      LeadsTo ("/" ++ name ++ calendarSuffix ++ query) (name ++ calendarSuffix)) ∧
    (∀ name name', LeadsTo request.target (name ++ calendarSuffix) →
      LeadsTo request.target (name' ++ calendarSuffix) → name = name') ∧
    ∀ file, LeadsTo request.target file →
      Route.pathOf request.target.toList ≠ "/health".toList →
      (∀ name ∈ names, file ≠ name ++ calendarSuffix) →
        (answer server fresh request).value.status = 404 ∧
          Entry.fetches (answer server fresh request).journal = [] := by
  intro server names
  have hnamed : server.store.WellNamed := Store.wellNamed_replay documents
  refine ⟨?_, ?_, ?_, ?_⟩
  · intro name
    simp only [answeredWith_iff hmethod]
    exact exists_reads_iff hmethod hnamed name
  · intro name hname query hquery
    obtain ⟨d, hd⟩ := Option.isSome_iff_exists.mp (Snapshot.mem_names_iff.mp hname)
    exact leadsTo_of_isCalendarName (hnamed.of_get? hd).2 hquery
  · exact fun name name' h h' => append_calendarSuffix_inj (h.unique h')
  · exact fun file hfile hhealth h => answer_of_notFound hmethod hfile hhealth h

/-- A store with a calendar that is named like the path of the state of the service. -/
def clinicDocuments : List Json := [
  .obj [("health", .obj [("type", .str "merged"), ("urls", .arr [
    .obj [("url", .str "https://example.com/choir.ics"), ("private", .bool true)]])])]]

def clinicServer : Server :=
  ⟨"calendar-proxy", Store.replay {} clinicDocuments, Feed.fetcher choirFeed⟩

def clinic : Definition := .merged "health" Component.choirSources

/-- The calendar is asked for with a letter of its name in percent signs and a query. -/
def clinicRequest : Request := { target := "/%68ealth.ics?week=23" }

def busyText : String :=
  "BEGIN:VCALENDAR\r\nBEGIN:VEVENT\r\nSUMMARY:Busy\r\nEND:VEVENT\r\nEND:VCALENDAR\r\n"

theorem serveDefinition_clinic :
    (serveDefinition clinicServer clinic).value = .contentType "text/calendar" 200 busyText ∧
      Entry.fetches (serveDefinition clinicServer clinic).journal =
        ["https://example.com/choir.ics"] := by
  have hgives : Gives clinicServer.fetch ⟨"https://example.com/choir.ics", true⟩ Component.choir :=
    ⟨Component.choirText, rfl, Component.read_choirText⟩
  have hfound : definition? clinicServer.store "health.ics" = .ok clinic := rfl
  obtain ⟨hvalue, hfetches⟩ := merge_of_all_give (.cons hgives .nil)
  rw [← serveFile_eq_serveDefinition hfound, serveFile_of_ok hfound hvalue]
  refine ⟨congrArg (Response.contentType "text/calendar" 200) (by decide +kernel), ?_⟩
  rw [Entry.fetches_append]
  exact congrArg (· ++ []) hfetches

/-- The calendar is answered with, and every other file is not found. -/
theorem answeredWith_iff_leadsTo_clinic : clinicRequest.method = "GET" ∧
    AnsweredWith clinicServer "1" clinicRequest clinic ∧
    (answer clinicServer "1" clinicRequest).value.status = 200 ∧
    (answer clinicServer "1" clinicRequest).value.body = busyText ∧
    Entry.fetches (answer clinicServer "1" clinicRequest).journal =
      ["https://example.com/choir.ics"] ∧
    (answer clinicServer "1" { target := "/clinic.ics" }).value.status = 404 ∧
    Entry.fetches (answer clinicServer "1" { target := "/clinic.ics" }).journal = [] := by
  have hmethod : clinicRequest.method = "GET" := rfl
  have hnames : clinicServer.store.snapshot.names = ["health"] := by decide +kernel
  have hleads : LeadsTo clinicRequest.target ("health" ++ calendarSuffix) := by
    refine ⟨"%68ealth.ics".toList, ?_, ?_, ?_, ?_⟩ <;> decide +kernel
  have hother : LeadsTo "/clinic.ics" "clinic.ics" := by
    refine ⟨"clinic.ics".toList, ?_, ?_, ?_, ?_⟩ <;> decide +kernel
  obtain ⟨d, hanswered, hname⟩ : ∃ d, AnsweredWith clinicServer "1" clinicRequest d ∧
      d.name = "health" :=
    ((answeredWith_iff_leadsTo clinicDocuments "calendar-proxy" (Feed.fetcher choirFeed) "1"
      clinicRequest hmethod).1 "health").mpr ⟨hnames ▸ List.mem_singleton_self "health", hleads⟩
  have hnotFound := (answeredWith_iff_leadsTo clinicDocuments "calendar-proxy"
    (Feed.fetcher choirFeed) "1" { target := "/clinic.ics" } rfl).2.2.2 "clinic.ics" hother
      (by decide +kernel) (by decide +kernel)
  have hd : d = clinic := by
    obtain ⟨-, name, -, -, -, hget⟩ := ((answeredWith_iff hmethod).mp hanswered).path
    have hsame : d.name = name := ((Store.wellNamed_replay clinicDocuments).of_get? hget).1
    rw [← hsame, hname] at hget
    exact Option.some.inj (hget.symm.trans rfl)
  subst hd
  obtain ⟨hvalue, hfetches⟩ := serveDefinition_clinic
  refine ⟨hmethod, hanswered, ?_, ?_, ?_, hnotFound⟩
  · rw [hanswered.status, hvalue]
    rfl
  · rw [hanswered.body, hvalue]
    rfl
  · rw [hanswered.fetches, hfetches]

end Gateway

end CalendarRelay
