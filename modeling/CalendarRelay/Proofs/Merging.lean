import CalendarRelay.Proofs.Keeping

namespace CalendarRelay.Gateway

open Text

/-- The calendar that a source gives: there is a text at its address, and the text reads as the
calendar. -/
def Gives (fetch : Fetcher) (s : Source) (c : Component) : Prop :=
  ∃ text, fetch s.url = .ok text ∧ Document.read text = .ok c

/-- What is wrong with a source: its text cannot be had, or it cannot be read. -/
inductive Fails (fetch : Fetcher) (s : Source) : Fault → Prop
  | unavailable {e : Fault} (hfetch : fetch s.url = .error e) : Fails fetch s e
  | unreadable {text : String} {e : Document.Fault} (hfetch : fetch s.url = .ok text)
    (hread : Document.read text = .error e) : Fails fetch s (.document e)

section

variable {fetch : Fetcher} {s : Source} {c : Component} {e : Fault}

theorem Gives.value_askCalendar (h : Gives fetch s c) :
    (askCalendar fetch s.url).value = .ok c := by
  obtain ⟨text, hfetch, hread⟩ := h
  simp [hfetch, hread, Except.bind, Except.mapError]

theorem Fails.value_askCalendar (h : Fails fetch s e) :
    (askCalendar fetch s.url).value = .error e := by
  cases h with
  | unavailable hfetch => simp [hfetch, Except.bind]
  | unreadable hfetch hread => simp [hfetch, hread, Except.bind, Except.mapError]

theorem Gives.name_eq (h : Gives fetch s c) : c.name = "VCALENDAR" := by
  obtain ⟨text, -, hread⟩ := h
  exact Document.name_of_read hread

theorem Gives.unique {d : Component} (h : Gives fetch s c) (hd : Gives fetch s d) : c = d :=
  Except.ok.inj (h.value_askCalendar.symm.trans hd.value_askCalendar)

theorem Gives.not_fails (h : Gives fetch s c) : ¬ Fails fetch s e := by
  intro hfails
  have hboth := h.value_askCalendar.symm.trans hfails.value_askCalendar
  simp at hboth

theorem gives_or_fails (fetch : Fetcher) (s : Source) :
    (∃ c, Gives fetch s c) ∨ ∃ e, Fails fetch s e := by
  cases hfetch : fetch s.url with
  | error e => exact .inr ⟨e, .unavailable hfetch⟩
  | ok text =>
    cases hread : Document.read text with
    | error e => exact .inr ⟨.document e, .unreadable hfetch hread⟩
    | ok c => exact .inl ⟨c, text, hfetch, hread⟩

end

section

variable {fetch : Fetcher} {sources before : List Source} {calendars : List Component}

/-- Sources that give their calendars are asked one after the other, before all others. -/
theorem gather_append (h : List.Forall₂ (Gives fetch) before calendars) (rest : List Source) :
    (gather fetch (before ++ rest)).value =
        (gather fetch rest).value.map (before.zip calendars ++ ·) ∧
      Entry.fetches (gather fetch (before ++ rest)).journal =
        before.map Source.url ++ Entry.fetches (gather fetch rest).journal := by
  induction h with
  | nil =>
    refine ⟨?_, rfl⟩
    cases hrest : (gather fetch rest).value <;> simp [hrest, Except.map]
  | @cons s c before calendars hs _ ih =>
    obtain ⟨hvalue, hfetches⟩ := ih
    rw [List.cons_append, gather_ok hs.value_askCalendar]
    constructor
    · rw [hvalue]
      cases (gather fetch rest).value <;> simp [Except.map]
    · have hfirst : Entry.fetches (.fetch s.url :: .note (.sourceLoaded s.url s.isPrivate) ::
          (gather fetch (before ++ rest)).journal) =
          s.url :: Entry.fetches (gather fetch (before ++ rest)).journal := rfl
      rw [hfirst, hfetches, List.map_cons, List.cons_append]

/-- Either all sources give a calendar, or there is a first one that fails. -/
theorem sources_cases (fetch : Fetcher) (sources : List Source) :
    (∃ calendars, List.Forall₂ (Gives fetch) sources calendars) ∨
      ∃ before calendars s rest e, sources = before ++ s :: rest ∧
        List.Forall₂ (Gives fetch) before calendars ∧ Fails fetch s e := by
  induction sources with
  | nil => exact .inl ⟨[], .nil⟩
  | cons s rest ih =>
    rcases gives_or_fails fetch s with ⟨c, hs⟩ | ⟨e, hs⟩
    · rcases ih with ⟨calendars, hrest⟩ | ⟨before, calendars, t, after, e, hsplit, hbefore, ht⟩
      · exact .inl ⟨c :: calendars, .cons hs hrest⟩
      · refine .inr ⟨s :: before, c :: calendars, t, after, e, ?_, .cons hs hbefore, ht⟩
        rw [hsplit, List.cons_append]
    · exact .inr ⟨[], [], s, rest, e, rfl, .nil, hs⟩

theorem exists_gives_of_mem (h : List.Forall₂ (Gives fetch) sources calendars) {s : Source}
    (hs : s ∈ sources) : ∃ c, Gives fetch s c := by
  induction h with
  | nil => simp at hs
  | cons hfirst _ ih =>
    rcases List.mem_cons.mp hs with heq | hmem
    · exact ⟨_, heq ▸ hfirst⟩
    · exact ih hmem

theorem value_merge (fetch : Fetcher) (sources : List Source) :
    (merge fetch sources).value = (gather fetch sources).value.bind combine := rfl

theorem journal_merge (fetch : Fetcher) (sources : List Source) :
    (merge fetch sources).journal = (gather fetch sources).journal := by
  rw [merge, Journaled.journal_bind]
  exact List.append_nil _

/-- The first source that fails ends the merging. -/
theorem merge_of_first_fails {s : Source} {e : Fault}
    (hbefore : List.Forall₂ (Gives fetch) before calendars) (hs : Fails fetch s e)
    (rest : List Source) : (merge fetch (before ++ s :: rest)).value = .error e ∧
      Entry.fetches (merge fetch (before ++ s :: rest)).journal =
        before.map Source.url ++ [s.url] := by
  obtain ⟨hvalue, hfetches⟩ := gather_append hbefore (s :: rest)
  rw [gather_error hs.value_askCalendar] at hvalue hfetches
  rw [value_merge, journal_merge, hvalue]
  exact ⟨rfl, hfetches⟩

/-- The calendars of all sources are combined under the properties of the first. -/
theorem merge_of_all_give {s : Source} {rest : List Source} {c : Component}
    {others : List Component} (h : List.Forall₂ (Gives fetch) (s :: rest) (c :: others)) :
    (merge fetch (s :: rest)).value = .ok
        { name := "VCALENDAR", properties := c.properties
          components := ((s :: rest).zip (c :: others)).flatMap fun t =>
            contribution t.1 t.2 } ∧
      Entry.fetches (merge fetch (s :: rest)).journal = (s :: rest).map Source.url := by
  obtain ⟨hvalue, hfetches⟩ := gather_append h []
  have hname : c.name = "VCALENDAR" := (List.forall₂_cons.mp h).1.name_eq
  rw [List.append_nil] at hvalue hfetches
  rw [value_merge, journal_merge, hvalue, hfetches]
  refine ⟨?_, List.append_nil _⟩
  simp [gather, Except.map, Except.bind, combine, ← hname]

end

theorem isNamed_iff_of_mem_schedulingNames {p : Property} {name : String}
    (h : name ∈ schedulingNames) : p.isNamed name = true ↔ upper p.name = name := by
  have hupper : ∀ name ∈ schedulingNames, upper name = name := by decide
  constructor
  · intro hsame
    rw [upper_eq_of_sameName hsame, hupper name h]
  · intro heq
    rw [Property.isNamed, sameName_iff, ← heq, toList_upper]
    simp [Function.comp_def]

/-- A property tells when an event takes place by its name, in whatever case. -/
theorem isScheduling_eq (p : Property) :
    isScheduling p = decide (upper p.name ∈ schedulingNames) := by
  rw [Bool.eq_iff_iff, decide_eq_true_eq, isScheduling, List.any_eq_true]
  constructor
  · rintro ⟨name, hmem, hname⟩
    rwa [(isNamed_iff_of_mem_schedulingNames hmem).mp hname]
  · intro hmem
    exact ⟨upper p.name, hmem, (isNamed_iff_of_mem_schedulingNames hmem).mpr rfl⟩

/-- What a private event is called. -/
def busyTitle : Property := { name := "SUMMARY", values := ["Busy"] }

theorem properties_redact (event : Component) :
    (redact event).properties = event.properties.filter isScheduling ++ [busyTitle] := rfl

/-- What is shown of a private event has nothing left to hide. -/
theorem redact_redact (event : Component) : redact (redact event) = redact event := by
  have hbusy : isScheduling busyTitle = false := by decide
  have hkept : (redact event).properties.filter isScheduling =
      event.properties.filter isScheduling := by
    rw [properties_redact, List.filter_append, List.filter_filter]
    simp [hbusy]
  rw [redact, hkept]
  rfl

/-- Merging asks the sources in their order. The first that fails is the last to be asked, and its
fault is the result. If all give their calendars, the properties of the first stand over what is
shown of each: all of a public one, and of a private one its events, redacted. A redacted event
has the properties that tell its times, as they were, and one title for all. -/
theorem merge_in_order (fetch : Fetcher) (sources : List Source) :
    merge fetch [] = ⟨.error (.internal "合并日历没有任何来源"), []⟩ ∧
    ((∃ s ∈ sources, ∃ e, Fails fetch s e) → ∃ before s rest e, sources = before ++ s :: rest ∧
      (∀ t ∈ before, ∃ c, Gives fetch t c) ∧ Fails fetch s e ∧
      (merge fetch sources).value = .error e ∧
      Entry.fetches (merge fetch sources).journal = before.map Source.url ++ [s.url]) ∧
    (sources ≠ [] → (∀ s ∈ sources, ∀ e, ¬ Fails fetch s e) → ∃ first others,
      List.Forall₂ (Gives fetch) sources (first :: others) ∧
      (merge fetch sources).value = .ok
        { name := "VCALENDAR", properties := first.properties
          components := (sources.zip (first :: others)).flatMap fun t =>
            if t.1.isPrivate then (t.2.components.filter Component.isEvent).map redact
            else t.2.components } ∧
      Entry.fetches (merge fetch sources).journal = sources.map Source.url) ∧
    ∀ event : Component, (redact event).name = event.name ∧
      (redact event).properties =
        (event.properties.filter fun p => upper p.name ∈ schedulingNames) ++ [busyTitle] ∧
      (redact event).components = [] ∧ redact (redact event) = redact event := by
  refine ⟨rfl, ?_, ?_, ?_⟩
  · intro hfails
    rcases sources_cases fetch sources with ⟨calendars, hall⟩ |
      ⟨before, calendars, s, rest, e, hsplit, hbefore, hs⟩
    · obtain ⟨s, hs, e, hfails⟩ := hfails
      obtain ⟨c, hgives⟩ := exists_gives_of_mem hall hs
      exact absurd hfails hgives.not_fails
    · have hmerge := merge_of_first_fails hbefore hs rest
      rw [← hsplit] at hmerge
      exact ⟨before, s, rest, e, hsplit, fun t ht => exists_gives_of_mem hbefore ht, hs, hmerge⟩
  · intro hne hnone
    rcases sources_cases fetch sources with ⟨calendars, hall⟩ |
      ⟨before, calendars, s, rest, e, hsplit, -, hs⟩
    · cases hall with
      | nil => exact absurd rfl hne
      | cons hfirst hothers =>
        have hall := List.Forall₂.cons hfirst hothers
        exact ⟨_, _, hall, merge_of_all_give hall⟩
    · have hmem : s ∈ sources := by simp [hsplit]
      exact absurd hs (hnone s hmem e)
  · intro event
    refine ⟨rfl, ?_, rfl, redact_redact event⟩
    rw [properties_redact]
    congr 2
    funext p
    exact isScheduling_eq p

/-- A town with one feed, that of its choir. -/
def townFeeds : Fetcher := fun url =>
  if url = "https://example.com/choir.ics" then .ok Component.choirText
  else .error (.feedRefused url 404 "")

def hiddenChoir : Source := ⟨"https://example.com/choir.ics", true⟩

def shownChoir : Source := ⟨"https://example.com/choir.ics", false⟩

def theatre : Source := ⟨"https://example.com/theatre.ics", false⟩

/-- An event that tells all that can be told of when it takes place, and more. -/
def recital : Component := .event ({ name := "SUMMARY", values := ["Recital"] } ::
  { name := "X-DTSTART", values := ["soon"] } :: schedule ++
    [{ name := "LOCATION", values := ["Chapel"] }])

/-- The choir can be listed twice, hidden and shown. With the theatre between them the choir is
asked once and nothing is shown. -/
theorem merge_in_order_townFeeds :
    (∀ s ∈ [hiddenChoir, shownChoir], ∀ e, ¬ Fails townFeeds s e) ∧
    (merge townFeeds [hiddenChoir, shownChoir]).value = .ok { Component.choir with
      components := [.event [{ name := "SUMMARY", values := ["Busy"] }], Component.rehearsal] } ∧
    (∃ s ∈ [hiddenChoir, theatre, shownChoir], ∃ e, Fails townFeeds s e) ∧
    (∃ e, (merge townFeeds [hiddenChoir, theatre, shownChoir]).value = .error e) ∧
    Entry.fetches (merge townFeeds [hiddenChoir, theatre, shownChoir]).journal =
      [hiddenChoir.url, theatre.url] ∧
    redact recital = .event (schedule ++ [{ name := "SUMMARY", values := ["Busy"] }]) := by
  have hhidden : Gives townFeeds hiddenChoir Component.choir :=
    ⟨Component.choirText, rfl, Component.read_choirText⟩
  have hshown : Gives townFeeds shownChoir Component.choir :=
    ⟨Component.choirText, rfl, Component.read_choirText⟩
  have hgive : ∀ s ∈ [hiddenChoir, shownChoir], ∀ e, ¬ Fails townFeeds s e := by
    simp [hhidden.not_fails, hshown.not_fails]
  have htheatre : ∃ s ∈ [hiddenChoir, theatre, shownChoir], ∃ e, Fails townFeeds s e :=
    ⟨theatre, by simp, _, .unavailable rfl⟩
  obtain ⟨-, -, hall, -⟩ := merge_in_order townFeeds [hiddenChoir, shownChoir]
  obtain ⟨-, hfirst, -⟩ := merge_in_order townFeeds [hiddenChoir, theatre, shownChoir]
  refine ⟨hgive, ?_, htheatre, ?_, ?_, rfl⟩
  · obtain ⟨first, others, hcalendars, hvalue, -⟩ := hall (by simp) hgive
    obtain ⟨hfirst, hothers⟩ := List.forall₂_cons.mp hcalendars
    obtain ⟨second, rest, hsecond, -, rfl⟩ := List.forall₂_cons_left_iff.mp hothers
    rw [hvalue, hfirst.unique hhidden, hsecond.unique hshown]
    rfl
  · obtain ⟨before, s, rest, e, -, -, -, hvalue, -⟩ := hfirst htheatre
    exact ⟨e, hvalue⟩
  · exact (merge_of_first_fails (.cons hhidden .nil) (.unavailable rfl) [shownChoir]).2

end CalendarRelay.Gateway
