import CalendarRelay.Proofs.Loading

namespace CalendarRelay

/-- A fault names the calendar that it was found in. -/
theorem Definition.calendar?_of_ofJson {name : String} {j : Json} {fault : Definition.Fault}
    (h : Definition.ofJson name j = .error fault) : fault.calendar? = some name := by
  rw [ofJson] at h
  split at h
  · cases hbody : bodyOfJson name j with
    | error e =>
      have hfault : Fault.badCalendar name e = fault := by simpa [hbody, Except.mapError] using h
      rw [← hfault]
      rfl
    | ok d => simp [hbody, Except.mapError] at h
  · have hfault : Fault.badName name = fault := Except.error.inj h
    rw [← hfault]
    rfl

namespace Store

/-- What is wrong with the definition in a field of a document. -/
def faultOf? (f : String × Json) : Option Definition.Fault :=
  match Definition.ofJson f.1 f.2 with
  | .ok _ => none
  | .error fault => some fault

theorem faultOf?_eq_none_iff {f : String × Json} :
    faultOf? f = none ↔ ∃ d, Definition.ofJson f.1 f.2 = .ok d := by
  rw [faultOf?]
  cases Definition.ofJson f.1 f.2 <;> simp

theorem faultOf?_eq_some_iff {f : String × Json} {fault : Definition.Fault} :
    faultOf? f = some fault ↔ Definition.ofJson f.1 f.2 = .error fault := by
  rw [faultOf?]
  cases Definition.ofJson f.1 f.2 <;> simp

variable {previous : Snapshot} {fields : List (String × Json)} {name : String}

theorem isLoaded_outcome (previous : Snapshot) (f : String × Json) :
    (outcome previous f.1 f.2).value.isLoaded = (faultOf? f).isNone := by
  rw [outcome, faultOf?]
  cases Definition.ofJson f.1 f.2 with
  | ok d => rfl
  | error fault => cases previous.get? f.1 <;> rfl

theorem fault?_outcome (previous : Snapshot) (f : String × Json) :
    (outcome previous f.1 f.2).value.fault? = faultOf? f := by
  rw [outcome, faultOf?]
  cases Definition.ofJson f.1 f.2 with
  | ok d => rfl
  | error fault => cases previous.get? f.1 <;> rfl

theorem isKept_outcome (previous : Snapshot) (f : String × Json) :
    (outcome previous f.1 f.2).value.isKept = ((faultOf? f).isSome && previous.contains f.1) := by
  rw [outcome, faultOf?, Snapshot.contains]
  cases Definition.ofJson f.1 f.2 with
  | ok d => rfl
  | error fault => cases previous.get? f.1 <;> rfl

/-- The report on the outcomes of all fields. -/
def reportOn (previous : Snapshot) (fields : List (String × Json)) : Report :=
  report previous (outcomes previous fields).value

theorem loaded_reportOn (previous : Snapshot) (fields : List (String × Json)) :
    (reportOn previous fields).loaded =
      (fields.filter fun f => (faultOf? f).isNone).map Prod.fst := by
  simp only [reportOn, report, value_outcomes, List.filter_map, List.map_map, Function.comp_def,
    isLoaded_outcome]

theorem failed_reportOn (previous : Snapshot) (fields : List (String × Json)) :
    (reportOn previous fields).failed =
      fields.filterMap fun f => (faultOf? f).map fun e => (f.1, e) := by
  simp only [reportOn, report, value_outcomes, List.filterMap_map, Function.comp_def,
    fault?_outcome]

theorem retained_reportOn (previous : Snapshot) (fields : List (String × Json)) :
    (reportOn previous fields).retained =
      (fields.filter fun f => (faultOf? f).isSome && previous.contains f.1).map Prod.fst := by
  simp only [reportOn, report, value_outcomes, List.filter_map, List.map_map, Function.comp_def,
    isKept_outcome]

theorem any_key_iff : (fields.any fun f => f.1 == name) = true ↔ name ∈ fields.map Prod.fst := by
  simp only [List.any_eq_true, beq_iff_eq, List.mem_map]

theorem removed_reportOn (previous : Snapshot) (fields : List (String × Json)) :
    (reportOn previous fields).removed =
      previous.names.filter fun name => !(fields.any fun f => f.1 == name) := by
  simp only [reportOn, report, value_outcomes, List.any_map, Function.comp_def]

theorem mem_removed_reportOn : name ∈ (reportOn previous fields).removed ↔
    name ∈ previous.names ∧ name ∉ fields.map Prod.fst := by
  rw [removed_reportOn, List.mem_filter, Bool.not_eq_true', ← Bool.not_eq_true, any_key_iff]

/-- Values that are found for some of the fields stand in the order of the fields. -/
theorem keys_filterMap_sublist {β : Type} (g : String × Json → Option β)
    (fields : List (String × Json)) :
    ((fields.filterMap fun f => (g f).map fun b => (f.1, b)).map Prod.fst).Sublist
      (fields.map Prod.fst) := by
  induction fields with
  | nil => exact .slnil
  | cons f fields ih =>
    rw [List.filterMap_cons]
    cases g f with
    | none => exact ih.cons _
    | some b => exact ih.cons_cons _

theorem names_reloaded_sublist (s : Store) (fields : List (String × Json)) :
    (s.reloaded (.obj fields)).snapshot.names.Sublist (fields.map Prod.fst) := by
  have hnames : (s.reloaded (.obj fields)).snapshot.names =
      ((outcomes s.snapshot fields).value.filterMap fun f =>
        f.2.definition?.map fun d => (f.1, d)).map Prod.fst := rfl
  rw [hnames, value_outcomes, List.filterMap_map]
  exact keys_filterMap_sublist (fun f => (outcome s.snapshot f.1 f.2).value.definition?) fields

/-- The names of a store that has come about by reloading are in order. -/
theorem names_replay_sorted {documents : List Json} (h : ∀ j ∈ documents, j.IsOrdered) :
    (replay {} documents).snapshot.names.Pairwise (· < ·) := by
  induction documents using List.reverseRecOn with
  | nil => exact List.Pairwise.nil
  | append_singleton documents document ih =>
    have hbefore := ih fun j hj => h j (List.mem_append_left _ hj)
    have hreplay : replay {} (documents ++ [document]) =
        (replay {} documents).reloaded document := by simp [replay]
    rw [hreplay]
    cases hfields : document.fields? with
    | none => rwa [reloaded_of_fields?_eq_none _ hfields]
    | some fields =>
      have hdocument : document = .obj fields := by
        cases document <;> simp_all [Json.fields?]
      have hordered : Json.Ordered fields := h document (by simp) fields hfields
      rw [hdocument]
      exact hordered.sublist (names_reloaded_sublist _ fields)

end Store

/-- What a report tells of the reload of a document, from the snapshot before it to the one
after. -/
structure Report.Tells (r : Report) (fields : List (String × Json)) (before after : Snapshot) :
    Prop where
  loaded_sorted : r.loaded.Pairwise (· < ·)
  failed_sorted : (r.failed.map Prod.fst).Pairwise (· < ·)
  retained_sorted : r.retained.Pairwise (· < ·)
  removed_sorted : r.removed.Pairwise (· < ·)
  names_sorted : after.names.Pairwise (· < ·)
  partition : (r.loaded ++ r.failed.map Prod.fst).Perm (fields.map Prod.fst)
  mem_loaded_iff : ∀ name, name ∈ r.loaded ↔
    ∃ j d, Json.lookup? fields name = some j ∧ Definition.ofJson name j = .ok d
  mem_failed_iff : ∀ name fault, (name, fault) ∈ r.failed ↔
    ∃ j, Json.lookup? fields name = some j ∧ Definition.ofJson name j = .error fault
  mem_retained_iff : ∀ name, name ∈ r.retained ↔
    name ∈ r.failed.map Prod.fst ∧ name ∈ before.names
  mem_removed_iff : ∀ name, name ∈ r.removed ↔
    name ∈ before.names ∧ name ∉ fields.map Prod.fst
  names : after.names.Perm (r.loaded ++ r.retained)
  loaded_eq : ∀ name j d, Json.lookup? fields name = some j → Definition.ofJson name j = .ok d →
    after.get? name = some d
  retained_eq : ∀ name ∈ r.retained, after.get? name = before.get? name
  named : ∀ f ∈ r.failed, f.2.calendar? = some f.1
  clean : r.isClean = true ↔ ∀ name j, Json.lookup? fields name = some j →
    ∃ d, Definition.ofJson name j = .ok d

namespace Store

variable {s : Store} {fields : List (String × Json)} {name : String}

/-- Where each key stands once, the value under a key is the one beside it. -/
theorem lookup?_eq_some_iff (h : Json.Ordered fields) {j : Json} :
    Json.lookup? fields name = some j ↔ (name, j) ∈ fields := by
  refine ⟨Json.mem_of_lookup?, fun hmem => ?_⟩
  induction fields with
  | nil => cases hmem
  | cons f fields ih =>
    obtain ⟨hlt, hfields⟩ := Json.ordered_cons.mp h
    rw [Json.lookup?_cons]
    rcases List.mem_cons.mp hmem with hhead | htail
    · rw [← hhead, if_pos rfl]
    · have hkey : f.1 < name := hlt name (List.mem_map_of_mem htail)
      rw [if_neg (ne_of_lt hkey)]
      exact ih hfields htail

theorem mem_loaded_reportOn (h : Json.Ordered fields) (previous : Snapshot) :
    name ∈ (reportOn previous fields).loaded ↔
      ∃ j d, Json.lookup? fields name = some j ∧ Definition.ofJson name j = .ok d := by
  simp only [loaded_reportOn, List.mem_map, List.mem_filter, Option.isNone_iff_eq_none,
    faultOf?_eq_none_iff, lookup?_eq_some_iff h]
  constructor
  · rintro ⟨⟨key, j⟩, ⟨hmem, d, hd⟩, rfl⟩
    exact ⟨j, d, hmem, hd⟩
  · rintro ⟨j, d, hmem, hd⟩
    exact ⟨(name, j), ⟨hmem, d, hd⟩, rfl⟩

theorem mem_failed_reportOn (h : Json.Ordered fields) (previous : Snapshot)
    {fault : Definition.Fault} : (name, fault) ∈ (reportOn previous fields).failed ↔
      ∃ j, Json.lookup? fields name = some j ∧ Definition.ofJson name j = .error fault := by
  simp only [failed_reportOn, List.mem_filterMap, Option.map_eq_some_iff, faultOf?_eq_some_iff,
    lookup?_eq_some_iff h, Prod.mk.injEq]
  constructor
  · rintro ⟨⟨key, j⟩, hmem, fault', hfault, rfl, rfl⟩
    exact ⟨j, hmem, hfault⟩
  · rintro ⟨j, hmem, hfault⟩
    exact ⟨(name, j), hmem, fault, hfault, rfl, rfl⟩

/-- The names of what has failed are those of the fields with a fault. -/
theorem keys_failed_reportOn (previous : Snapshot) (fields : List (String × Json)) :
    (reportOn previous fields).failed.map Prod.fst =
      (fields.filter fun f => (faultOf? f).isSome).map Prod.fst := by
  rw [failed_reportOn]
  induction fields with
  | nil => rfl
  | cons f fields ih =>
    rw [List.filterMap_cons, List.filter_cons]
    cases faultOf? f with
    | none => exact ih
    | some fault => exact congrArg (f.1 :: ·) ih

theorem mem_retained_reportOn (previous : Snapshot) (fields : List (String × Json)) :
    name ∈ (reportOn previous fields).retained ↔
      name ∈ (reportOn previous fields).failed.map Prod.fst ∧ name ∈ previous.names := by
  rw [retained_reportOn, keys_failed_reportOn]
  simp only [List.mem_map, List.mem_filter, Bool.and_eq_true, Snapshot.mem_names_iff,
    Snapshot.contains]
  constructor
  · rintro ⟨f, ⟨hmem, hfault, hprevious⟩, rfl⟩
    exact ⟨⟨f, ⟨hmem, hfault⟩, rfl⟩, hprevious⟩
  · rintro ⟨⟨f, ⟨hmem, hfault⟩, rfl⟩, hprevious⟩
    exact ⟨f, ⟨hmem, hfault, hprevious⟩, rfl⟩

/-- Every field of a document is either loaded or failed. -/
theorem partition_reportOn (previous : Snapshot) (fields : List (String × Json)) :
    ((reportOn previous fields).loaded ++ (reportOn previous fields).failed.map Prod.fst).Perm
      (fields.map Prod.fst) := by
  have hsplit := List.filter_append_perm (fun f => (faultOf? f).isNone) fields
  have hnot : (fun f => !(faultOf? f).isNone) = fun f => (faultOf? f).isSome := by
    funext f
    exact Option.not_isNone _
  rw [hnot] at hsplit
  rw [loaded_reportOn, keys_failed_reportOn, ← List.map_append]
  exact hsplit.map Prod.fst

theorem nodup_loaded_retained (h : Json.Ordered fields) (previous : Snapshot) :
    ((reportOn previous fields).loaded ++ (reportOn previous fields).retained).Nodup := by
  have hboth := (partition_reportOn previous fields).nodup_iff.mpr h.nodup
  obtain ⟨hloaded, hfailed, hdisjoint⟩ := List.nodup_append.mp hboth
  have hretained : (reportOn previous fields).retained.Nodup := by
    rw [retained_reportOn]
    exact h.nodup.sublist (List.filter_sublist.map _)
  refine List.nodup_append.mpr ⟨hloaded, hretained, ?_⟩
  intro a ha b hb
  exact hdisjoint a ha b ((mem_retained_reportOn previous fields).mp hb).1

/-- What is retained is what it was. -/
theorem get?_of_mem_retained (h : Json.Ordered fields)
    (hname : name ∈ (reportOn s.snapshot fields).retained) :
    (s.reloaded (.obj fields)).snapshot.get? name = s.snapshot.get? name := by
  obtain ⟨hfailed, -⟩ := (mem_retained_reportOn s.snapshot fields).mp hname
  obtain ⟨⟨key, fault⟩, hmem, hkey⟩ := List.mem_map.mp hfailed
  have hkey : key = name := hkey
  subst hkey
  obtain ⟨j, hj, hfault⟩ := (mem_failed_reportOn h s.snapshot).mp hmem
  rw [get?_reloaded s h, hj, Option.bind_some, hfault]
  rfl

theorem mem_names_reloaded_iff (h : Json.Ordered fields) :
    name ∈ (s.reloaded (.obj fields)).snapshot.names ↔
      name ∈ (reportOn s.snapshot fields).loaded ++ (reportOn s.snapshot fields).retained := by
  rw [List.mem_append]
  constructor
  · intro hname
    have hsome := Snapshot.mem_names_iff.mp hname
    rw [get?_reloaded s h] at hsome
    obtain ⟨d, hd⟩ := Option.isSome_iff_exists.mp hsome
    obtain ⟨j, hj, hd⟩ := Option.bind_eq_some_iff.mp hd
    cases hread : Definition.ofJson name j with
    | ok e => exact .inl ((mem_loaded_reportOn h s.snapshot).mpr ⟨j, e, hj, hread⟩)
    | error fault =>
      right
      have hfailed := (mem_failed_reportOn h s.snapshot).mpr ⟨j, hj, hread⟩
      have hbefore : s.snapshot.get? name = some d := by simpa [hread, Except.toOption] using hd
      refine (mem_retained_reportOn s.snapshot fields).mpr ⟨List.mem_map_of_mem hfailed, ?_⟩
      rw [Snapshot.mem_names_iff, hbefore]
      rfl
  · intro hname
    rw [Snapshot.mem_names_iff]
    rcases hname with hloaded | hretained
    · obtain ⟨j, d, hj, hd⟩ := (mem_loaded_reportOn h s.snapshot).mp hloaded
      rw [get?_reloaded s h, hj, Option.bind_some, hd]
      rfl
    · rw [get?_of_mem_retained h hretained, ← Snapshot.mem_names_iff]
      exact ((mem_retained_reportOn s.snapshot fields).mp hretained).2

theorem isClean_reportOn_iff (h : Json.Ordered fields) (previous : Snapshot) :
    (reportOn previous fields).isClean = true ↔
      ∀ name j, Json.lookup? fields name = some j → ∃ d, Definition.ofJson name j = .ok d := by
  rw [Report.isClean, List.isEmpty_iff, List.eq_nil_iff_forall_not_mem]
  constructor
  · intro hnone name j hj
    cases hread : Definition.ofJson name j with
    | ok d => exact ⟨d, rfl⟩
    | error fault =>
      exact absurd ((mem_failed_reportOn h previous).mpr ⟨j, hj, hread⟩) (hnone (name, fault))
  · intro hall f hf
    obtain ⟨j, hj, hfault⟩ := (mem_failed_reportOn h previous).mp hf
    obtain ⟨d, hd⟩ := hall f.1 j hj
    simp [hd] at hfault

theorem tells_reportOn (h : Json.Ordered fields) (hs : s.snapshot.names.Pairwise (· < ·)) :
    (reportOn s.snapshot fields).Tells fields s.snapshot (s.reloaded (.obj fields)).snapshot where
  loaded_sorted := by
    rw [loaded_reportOn]
    exact h.sublist (List.filter_sublist.map _)
  failed_sorted := by
    rw [keys_failed_reportOn]
    exact h.sublist (List.filter_sublist.map _)
  retained_sorted := by
    rw [retained_reportOn]
    exact h.sublist (List.filter_sublist.map _)
  removed_sorted := by
    rw [removed_reportOn]
    exact hs.sublist List.filter_sublist
  names_sorted := h.sublist (names_reloaded_sublist s fields)
  partition := partition_reportOn s.snapshot fields
  mem_loaded_iff _ := mem_loaded_reportOn h s.snapshot
  mem_failed_iff _ _ := mem_failed_reportOn h s.snapshot
  mem_retained_iff _ := mem_retained_reportOn s.snapshot fields
  mem_removed_iff _ := mem_removed_reportOn
  names := by
    have hnames := (h.sublist (names_reloaded_sublist s fields)).imp fun hlt => ne_of_lt hlt
    refine (List.perm_ext_iff_of_nodup hnames (nodup_loaded_retained h s.snapshot)).mpr ?_
    intro name
    exact mem_names_reloaded_iff h
  loaded_eq name j d hj hd := by
    rw [get?_reloaded s h, hj, Option.bind_some, hd]
    rfl
  retained_eq _ hname := get?_of_mem_retained h hname
  named f hf := by
    obtain ⟨j, -, hj⟩ := (mem_failed_reportOn h s.snapshot).mp hf
    exact Definition.calendar?_of_ofJson hj
  clean := isClean_reportOn_iff h s.snapshot

/-- The store after a document that is an object, and the report on it. -/
theorem value_reload_obj (s : Store) (fields : List (String × Json)) :
    (s.reload (.obj fields)).value =
      .ok (s.reloaded (.obj fields), reportOn s.snapshot fields) := rfl

/-- What became of one calendar is the same in every document that defines it alike, whatever else
is in the document and in the store. -/
theorem fate_of_lookup?_eq {others : List (String × Json)} (h : Json.Ordered fields)
    (hothers : Json.Ordered others) (hsame : Json.lookup? others name = Json.lookup? fields name)
    (previous previous' : Snapshot) :
    (name ∈ (reportOn previous fields).loaded ↔ name ∈ (reportOn previous' others).loaded) ∧
      ∀ fault, (name, fault) ∈ (reportOn previous fields).failed ↔
        (name, fault) ∈ (reportOn previous' others).failed := by
  rw [mem_loaded_reportOn h, mem_loaded_reportOn hothers, hsame]
  refine ⟨Iff.rfl, fun fault => ?_⟩
  rw [mem_failed_reportOn h, mem_failed_reportOn hothers, hsame]

/-- A reload, of any document, of a store that has come about by reloading. It fails exactly when
the document is no object, and then the store, its version and what its subscribers hear are as
they were. Otherwise the version grows by one, is sent to the subscribers, and the report tells
what the document and the snapshot before have come to; and what it tells of one calendar is the
same for any other store and document that defines this calendar alike. -/
theorem reload_tells {documents : List Json} {document : Json}
    (hdocuments : ∀ j ∈ documents, j.IsOrdered) (hdocument : document.IsOrdered) :
    ((∃ fault, ((replay {} documents).reload document).value = .error fault) ↔
      document.fields? = none) ∧
    (document.fields? = none → (replay {} documents).reloaded document = replay {} documents ∧
      ∀ r : Subscriber,
        r.hasChanged ((replay {} documents).reloaded document) =
          r.hasChanged (replay {} documents) ∧
        r.look ((replay {} documents).reloaded document) = r.look (replay {} documents)) ∧
    ∀ fields, document.fields? = some fields → ∃ t report,
      ((replay {} documents).reload document).value = .ok (t, report) ∧
      (replay {} documents).reloaded document = t ∧
      t.snapshot.version = (replay {} documents).snapshot.version + 1 ∧
      t.versions = (replay {} documents).versions.send t.snapshot.version ∧
      report.Tells fields (replay {} documents).snapshot t.snapshot ∧
      ∀ (s' t' : Store) fields' report', Json.Ordered fields' →
        (s'.reload (.obj fields')).value = .ok (t', report') →
        ∀ name, Json.lookup? fields' name = Json.lookup? fields name →
          (name ∈ report.loaded ↔ name ∈ report'.loaded) ∧
            ∀ fault, (name, fault) ∈ report.failed ↔ (name, fault) ∈ report'.failed := by
  refine ⟨?_, ?_, ?_⟩
  · constructor
    · intro herror
      obtain ⟨fault, herror⟩ := herror
      by_contra hobject
      obtain ⟨fields, hfields⟩ := Option.ne_none_iff_exists'.mp hobject
      obtain ⟨t, report, hreload⟩ :=
        exists_reload_of_fields?_eq_some (replay {} documents) hfields
      simp [hreload] at herror
    · intro hnone
      exact ⟨_, value_reload_of_fields?_eq_none _ hnone⟩
  · intro hnone
    have hsame := reloaded_of_fields?_eq_none (replay {} documents) hnone
    refine ⟨hsame, fun r => ?_⟩
    rw [hsame]
    exact ⟨rfl, rfl⟩
  · intro fields hfields
    have hobject : document = .obj fields := by
      cases document <;> simp_all [Json.fields?]
    subst hobject
    have hordered := hdocument fields hfields
    have htells := tells_reportOn hordered (names_replay_sorted hdocuments)
    refine ⟨_, _, value_reload_obj _ fields, rfl, version_reloaded _ fields, rfl, htells, ?_⟩
    intro s' t' fields' report' hordered' hreload' name hsame
    have hreport : reportOn s'.snapshot fields' = report' :=
      (Prod.mk.inj (Except.ok.inj ((value_reload_obj s' fields').symm.trans hreload'))).2
    rw [← hreport]
    exact fate_of_lookup?_eq hordered hordered' hsame _ _

/-- The definition of a feed without rules. -/
def plainFeed : Json :=
  .obj [("type", .str "filtered"), ("url", .str "https://example.com/a.ics")]

/-- Two proper definitions. -/
def firstSeason : Json := .obj [("autumn", plainFeed), ("team", plainFeed)]

/-- One of them is gone, the other one is broken, and two are new, of which one has a bad name. -/
def secondSeason : Json := .obj [("a b", plainFeed), ("spring", plainFeed), ("team", .null)]

theorem isOrdered_seasons : firstSeason.IsOrdered ∧ secondSeason.IsOrdered := by
  constructor
  · rintro _ ⟨⟩
    unfold Json.Ordered
    decide +kernel
  · rintro _ ⟨⟩
    unfold Json.Ordered
    decide +kernel

theorem reload_tells_secondSeason : firstSeason.IsOrdered ∧ secondSeason.IsOrdered ∧
    ∃ t report, ((replay {} [firstSeason]).reload secondSeason).value = .ok (t, report) ∧
      report.loaded = ["spring"] ∧ report.failed.map Prod.fst = ["a b", "team"] ∧
      report.retained = ["team"] ∧ report.removed = ["autumn"] ∧
      t.snapshot.names.Perm ["spring", "team"] ∧
      t.snapshot.get? "team" = (replay {} [firstSeason]).snapshot.get? "team" := by
  obtain ⟨hfirst, hsecond⟩ := isOrdered_seasons
  have hdocuments : ∀ j ∈ [firstSeason], j.IsOrdered := List.forall_mem_singleton.mpr hfirst
  obtain ⟨-, -, hobject⟩ := reload_tells hdocuments hsecond
  obtain ⟨t, report, hreload, -, -, -, htells, -⟩ := hobject _ rfl
  have hreport : reportOn (replay {} [firstSeason]).snapshot
      [("a b", plainFeed), ("spring", plainFeed), ("team", .null)] = report :=
    (Prod.mk.inj (Except.ok.inj hreload)).2
  have hloaded : report.loaded = ["spring"] := by
    rw [← hreport]
    decide +kernel
  have hretained : report.retained = ["team"] := by
    rw [← hreport]
    decide +kernel
  refine ⟨hfirst, hsecond, t, report, hreload, hloaded, ?_, hretained, ?_, ?_, ?_⟩
  · rw [← hreport]
    decide +kernel
  · rw [← hreport]
    decide +kernel
  · have hnames := htells.names
    rwa [hloaded, hretained] at hnames
  · exact htells.retained_eq "team" (hretained ▸ List.mem_singleton_self _)

end Store

end CalendarRelay
