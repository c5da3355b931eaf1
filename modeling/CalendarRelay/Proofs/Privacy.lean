import CalendarRelay.Gateway.Serve
import CalendarRelay.Proofs.Canonical

namespace CalendarRelay

open Text

namespace Document

/-- Every calendar that is read has the same name. -/
theorem name_of_read {text : String} {c : Component} (h : read text = .ok c) :
    c.name = "VCALENDAR" := by
  rw [read] at h
  split at h
  · simp at h
  · rename_i root hroot
    split at h
    · rename_i hsame
      have hc : root = c := Except.ok.inj h
      have hupper : upper root.name = root.name := by
        rw [readDocument?] at hroot
        split at hroot
        · split at hroot
          · rw [← Option.some.inj hroot]
            exact upper_upper _
          · simp at hroot
        · simp at hroot
      rw [← hc, ← hupper, upper_eq_of_sameName hsame]
      decide
    · simp at h

end Document

namespace Gateway

@[simp] theorem value_askCalendar (fetch : Fetcher) (url : String) :
    (askCalendar fetch url).value =
      (fetch url).bind fun text => (Document.read text).mapError .document := rfl

@[simp] theorem journal_askCalendar (fetch : Fetcher) (url : String) :
    (askCalendar fetch url).journal = [.fetch url] := rfl

theorem name_of_askCalendar {fetch : Fetcher} {url : String} {c : Component}
    (h : (askCalendar fetch url).value = .ok c) : c.name = "VCALENDAR" := by
  rw [value_askCalendar] at h
  cases hf : fetch url with
  | error e => simp [hf, Except.bind] at h
  | ok text =>
    cases hr : Document.read text with
    | error e => simp [hf, hr, Except.bind, Except.mapError] at h
    | ok d =>
      have hd : d = c := by simpa [hf, hr, Except.bind, Except.mapError] using h
      exact hd ▸ Document.name_of_read hr

/-- Events that take place at the same times, as far as their properties tell. -/
def SameTimes (a b : Component) : Prop :=
  a.name = b.name ∧ a.properties.filter isScheduling = b.properties.filter isScheduling

/-- Calendars whose events take place at the same times, one after the other. -/
def SameSchedule (c d : Component) : Prop :=
  List.Forall₂ SameTimes (c.components.filter Component.isEvent)
    (d.components.filter Component.isEvent)

/-- Two ways to get at the feeds of a merged calendar that agree on the public feeds, on the
times of the events of the private ones, and on the properties of the first feed. -/
structure Agree (f g : Fetcher) (sources : List Source) : Prop where
  shown : ∀ s ∈ sources, s.isPrivate = false → f s.url = g s.url
  hidden : ∀ s ∈ sources, s.isPrivate = true → ∃ c d,
    (askCalendar f s.url).value = .ok c ∧ (askCalendar g s.url).value = .ok d ∧ SameSchedule c d
  header : ∀ s ∈ sources.head?, s.isPrivate = true → ∀ c d,
    (askCalendar f s.url).value = .ok c → (askCalendar g s.url).value = .ok d →
      c.properties = d.properties

theorem redact_eq_of_sameTimes {a b : Component} (h : SameTimes a b) : redact a = redact b := by
  rw [redact, redact, h.1, h.2]

/-- A private feed adds what is told by the times of its events. -/
theorem contribution_eq_of_sameSchedule {s : Source} (hs : s.isPrivate = true) {c d : Component}
    (h : SameSchedule c d) : contribution s c = contribution s d := by
  have hmap : ∀ {as bs : List Component}, List.Forall₂ SameTimes as bs →
      as.map redact = bs.map redact := by
    intro as bs hab
    induction hab with
    | nil => rfl
    | cons hx _ ih => rw [List.map_cons, List.map_cons, redact_eq_of_sameTimes hx, ih]
  rw [contribution, contribution, if_pos hs, if_pos hs]
  exact hmap h

/-- Asking for a feed of either kind fails alike, or gives calendars that add the same. -/
theorem askCalendar_cases {f g : Fetcher} {sources : List Source} (h : Agree f g sources)
    {s : Source} (hs : s ∈ sources) :
    (∃ e, (askCalendar f s.url).value = .error e ∧ (askCalendar g s.url).value = .error e) ∨
      ∃ c d, (askCalendar f s.url).value = .ok c ∧ (askCalendar g s.url).value = .ok d ∧
        contribution s c = contribution s d := by
  cases hprivate : s.isPrivate with
  | false =>
    have hsame : (askCalendar g s.url).value = (askCalendar f s.url).value := by
      rw [value_askCalendar, value_askCalendar, h.shown s hs hprivate]
    cases hf : (askCalendar f s.url).value with
    | error e => exact .inl ⟨e, rfl, hsame.trans hf⟩
    | ok c => exact .inr ⟨c, c, rfl, hsame.trans hf, rfl⟩
  | true =>
    obtain ⟨c, d, hc, hd, hcd⟩ := h.hidden s hs hprivate
    exact .inr ⟨c, d, hc, hd, contribution_eq_of_sameSchedule hprivate hcd⟩

/-- What the calendars of all sources add. -/
def contributions (calendars : List (Source × Component)) : List Component :=
  calendars.flatMap fun s => contribution s.1 s.2

theorem gather_error {fetch : Fetcher} {s : Source} {e : Fault}
    (h : (askCalendar fetch s.url).value = .error e) (rest : List Source) :
    gather fetch (s :: rest) = ⟨.error e, [.fetch s.url]⟩ := by
  apply Journaled.ext
  · rw [gather, Journaled.value_bind, h]
    rfl
  · rw [gather, Journaled.journal_bind, h]
    rfl

theorem gather_ok {fetch : Fetcher} {s : Source} {c : Component}
    (h : (askCalendar fetch s.url).value = .ok c) (rest : List Source) :
    gather fetch (s :: rest) = ⟨(gather fetch rest).value.map ((s, c) :: ·),
      .fetch s.url :: .note (.sourceLoaded s.url s.isPrivate) :: (gather fetch rest).journal⟩ := by
  apply Journaled.ext
  · rw [gather, Journaled.value_bind, h]
    rfl
  · rw [gather, Journaled.journal_bind, h]
    simp

theorem map_contributions_cons (s : Source) (c : Component)
    (found : Except Fault (List (Source × Component))) :
    (found.map ((s, c) :: ·)).map contributions =
      (found.map contributions).map (contribution s c ++ ·) := by
  cases found <;> simp [Except.map, contributions]

/-- Gathering from both sides leaves the same journal, and calendars that add the same. -/
theorem gather_agree {f g : Fetcher} {sources : List Source}
    (h : ∀ s ∈ sources,
      (∃ e, (askCalendar f s.url).value = .error e ∧ (askCalendar g s.url).value = .error e) ∨
        ∃ c d, (askCalendar f s.url).value = .ok c ∧ (askCalendar g s.url).value = .ok d ∧
          contribution s c = contribution s d) :
    (gather f sources).journal = (gather g sources).journal ∧
      (gather f sources).value.map contributions = (gather g sources).value.map contributions := by
  induction sources with
  | nil => exact ⟨rfl, rfl⟩
  | cons s rest ih =>
    obtain ⟨hjournal, hvalue⟩ := ih fun t ht => h t (by simp [ht])
    rcases h s (by simp) with ⟨e, hf, hg⟩ | ⟨c, d, hf, hg, hcd⟩
    · rw [gather_error hf, gather_error hg]
      exact ⟨rfl, rfl⟩
    · rw [gather_ok hf, gather_ok hg]
      refine ⟨by simp [hjournal], ?_⟩
      rw [map_contributions_cons, map_contributions_cons, hvalue, hcd]

theorem merge_error {fetch : Fetcher} {s : Source} {e : Fault}
    (h : (askCalendar fetch s.url).value = .error e) (rest : List Source) :
    merge fetch (s :: rest) = ⟨.error e, [.fetch s.url]⟩ := by
  rw [merge, gather_error h]
  rfl

/-- The first calendar lends its properties to all that is added. -/
theorem merge_ok {fetch : Fetcher} {s : Source} {c : Component}
    (h : (askCalendar fetch s.url).value = .ok c) (rest : List Source) :
    merge fetch (s :: rest) =
      ⟨((gather fetch rest).value.map contributions).map fun added =>
          { c with components := contribution s c ++ added },
        .fetch s.url :: .note (.sourceLoaded s.url s.isPrivate) ::
          (gather fetch rest).journal⟩ := by
  apply Journaled.ext
  · rw [merge, gather_ok h]
    cases (gather fetch rest).value <;>
      simp [Except.map, Except.bind, combine, contributions]
  · rw [merge, gather_ok h]
    simp

/-- What is merged depends on private feeds only by the times of their events, and by the
properties of the first. -/
theorem merge_eq_of_agree {f g : Fetcher} {sources : List Source} (h : Agree f g sources) :
    merge f sources = merge g sources ∧
      ∀ (service : String) (store : Store) (file name : String),
        definition? store file = .ok (.merged name sources) →
          serveFile ⟨service, store, f⟩ file = serveFile ⟨service, store, g⟩ file := by
  have hmerge : merge f sources = merge g sources := by
    cases sources with
    | nil => rfl
    | cons s rest =>
      obtain ⟨hjournal, hvalue⟩ := gather_agree fun t ht =>
        askCalendar_cases h (List.mem_cons_of_mem s ht)
      rcases askCalendar_cases h (List.mem_cons_self (a := s)) with
        ⟨e, hf, hg⟩ | ⟨c, d, hf, hg, hcd⟩
      · rw [merge_error hf, merge_error hg]
      · have hname : c.name = d.name :=
          (name_of_askCalendar hf).trans (name_of_askCalendar hg).symm
        have hproperties : c.properties = d.properties := by
          cases hprivate : s.isPrivate with
          | false =>
            have hsame : (askCalendar f s.url).value = (askCalendar g s.url).value := by
              rw [value_askCalendar, value_askCalendar, h.shown s (by simp) hprivate]
            have hc : c = d := Except.ok.inj (hf.symm.trans (hsame.trans hg))
            rw [hc]
          | true => exact h.header s (by simp) hprivate c d hf hg
        rw [merge_ok hf, merge_ok hg, hvalue, hjournal, hname, hproperties, hcd]
  refine ⟨hmerge, ?_⟩
  intro service store file name hd
  have hrender : render f (.merged name sources) = render g (.merged name sources) := hmerge
  rw [serveFile, serveFile]
  simp only [hd, hrender]

/-- All that can tell when an event takes place. -/
def schedule : Record := [
  { name := "UID", values := ["1"] },
  { name := "DTSTART", valueType := "date-time", values := ["20260301T090000Z"] },
  { name := "DTEND", valueType := "date-time", values := ["20260301T093000Z"] },
  { name := "DURATION", valueType := "duration", values := ["PT30M"] },
  { name := "DTSTAMP", valueType := "date-time", values := ["20260201T120000Z"] },
  { name := "RRULE", valueType := "recur", values := ["FREQ=WEEKLY"] },
  { name := "RDATE", valueType := "date-time", values := ["20260302T090000Z"] },
  { name := "EXDATE", valueType := "date-time", values := ["20260308T090000Z"] },
  { name := "RECURRENCE-ID", valueType := "date-time", values := ["20260315T090000Z"] },
  { name := "SEQUENCE", valueType := "integer", values := ["2"] },
  { name := "STATUS", values := ["CONFIRMED"] },
  { name := "TRANSP", values := ["OPAQUE"] }]

/-- A calendar of one appointment. -/
def appointment (product title : String) (others : List Component) : Component where
  name := "VCALENDAR"
  properties := [{ name := "PRODID", values := [product] }]
  components := others ++ [.event ({ name := "SUMMARY", values := [title] } :: schedule ++
    [{ name := "DESCRIPTION", values := [title] }])]

def planning : Component := appointment "-//Team//EN" "Planning" []

def dentist : Component := appointment "-//Home//EN" "Dentist" []

def beach : Component := appointment "-//Phone//EN" "Beach"
  [{ name := "VTIMEZONE", properties := [{ name := "TZID", values := ["Europe/Paris"] }] }]

/-- A public feed, and a private one with the given calendar. -/
def feeds (hidden : Component) : Fetcher := fun url =>
  if url = "https://example.com/team.ics" then .ok planning.toText
  else if url = "https://example.com/home.ics" then .ok hidden.toText
  else .error (.feedRefused url 404 "")

def team : Source := ⟨"https://example.com/team.ics", false⟩

def home : Source := ⟨"https://example.com/home.ics", true⟩

theorem canonical_schedule : ∀ p ∈ schedule, p.Canonical := by decide +kernel

theorem canonical_appointment {product title : String} {others : List Component}
    (hproduct : Property.Canonical { name := "PRODID", values := [product] })
    (hsummary : Property.Canonical { name := "SUMMARY", values := [title] })
    (hdescription : Property.Canonical { name := "DESCRIPTION", values := [title] })
    (hothers : ∀ c ∈ others, c.Canonical) : (appointment product title others).Canonical := by
  refine .intro ⟨by simp only [appointment]; decide, ?_⟩ ?_
  · simpa only [appointment, List.forall_mem_singleton] using hproduct
  · simp only [appointment, List.forall_mem_append, List.forall_mem_singleton]
    refine ⟨hothers, .intro ⟨by simp only [Component.event]; decide, ?_⟩
      (by simp [Component.event])⟩
    simp only [Component.event, List.forall_mem_cons, List.forall_mem_append, List.cons_append]
    exact ⟨hsummary, canonical_schedule, hdescription, by simp⟩

theorem canonical_planning : planning.Canonical :=
  canonical_appointment (by decide +kernel) (by decide +kernel) (by decide +kernel) (by simp)

theorem canonical_dentist : dentist.Canonical :=
  canonical_appointment (by decide +kernel) (by decide +kernel) (by decide +kernel) (by simp)

theorem canonical_beach : beach.Canonical :=
  canonical_appointment (by decide +kernel) (by decide +kernel) (by decide +kernel) (by
    simp only [List.forall_mem_singleton]
    exact .intro ⟨by decide, by decide +kernel⟩ (by simp))

theorem gives_of_canonical {fetch : Fetcher} {url : String} {c : Component}
    (hfetch : fetch url = .ok c.toText) (hc : c.Canonical) (hname : c.name = "VCALENDAR")
    (hself : c.mapProperties Property.withEscapes = c) :
    (askCalendar fetch url).value = .ok c := by
  rw [value_askCalendar, hfetch]
  simp [Except.bind, Document.read_toText_eq_withEscapes hc hname, hself, Except.mapError]

theorem gives_planning (c : Component) : (askCalendar (feeds c) team.url).value = .ok planning :=
  gives_of_canonical rfl canonical_planning rfl (by decide +kernel)

theorem gives_dentist : (askCalendar (feeds dentist) home.url).value = .ok dentist :=
  gives_of_canonical rfl canonical_dentist rfl (by decide +kernel)

theorem gives_beach : (askCalendar (feeds beach) home.url).value = .ok beach :=
  gives_of_canonical rfl canonical_beach rfl (by decide +kernel)

theorem agree_dentist_beach : Agree (feeds dentist) (feeds beach) [team, home] where
  shown := by simp [team, home, feeds]
  hidden := by
    intro s hs hprivate
    have hhome : s = home := by
      rcases List.mem_pair.mp hs with rfl | rfl
      · simp [team] at hprivate
      · rfl
    rw [hhome]
    exact ⟨dentist, beach, gives_dentist, gives_beach, .cons ⟨rfl, rfl⟩ .nil⟩
  header := by simp [team]

/-- The home feed may tell of the dentist or of the beach, in words of its own. What is shown of it
is when either takes place. -/
theorem merge_dentist_eq_beach : Agree (feeds dentist) (feeds beach) [team, home] ∧
    merge (feeds dentist) [team, home] = merge (feeds beach) [team, home] ∧
    (merge (feeds dentist) [team, home]).value = .ok { planning with
      components := planning.components ++
        [.event (schedule ++ [{ name := "SUMMARY", values := ["Busy"] }])] } := by
  refine ⟨agree_dentist_beach, (merge_eq_of_agree agree_dentist_beach).1, ?_⟩
  rw [merge_ok (gives_planning dentist), gather_ok gives_dentist]
  rfl

end Gateway

end CalendarRelay
