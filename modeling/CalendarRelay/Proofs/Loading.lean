import CalendarRelay.Catalogue.DefinitionFile
import CalendarRelay.Proofs.History

namespace CalendarRelay

namespace Store

theorem value_reload_of_fields?_eq_none (s : Store) {document : Json}
    (h : document.fields? = none) : (s.reload document).value = .error .badDocument := by
  cases document with
  | obj fields => simp [Json.fields?] at h
  | _ => rfl

theorem exists_reload_of_fields?_eq_some (s : Store) {document : Json}
    {fields : List (String × Json)} (h : document.fields? = some fields) :
    ∃ t report, (s.reload document).value = .ok (t, report) := by
  cases document with
  | obj fields => exact ⟨_, _, rfl⟩
  | _ => simp [Json.fields?] at h

theorem reloaded_eq_of_reload {s t : Store} {document : Json} {report : Report}
    (h : (s.reload document).value = .ok (t, report)) : s.reloaded document = t := by
  rw [reloaded, h]

theorem total_outcome (previous : Snapshot) (name : String) (j : Json) (c : Counter) :
    Entry.total (outcome previous name j).journal c = 0 := by
  rw [outcome]
  cases Definition.ofJson name j with
  | ok d => rfl
  | error fault => cases previous.get? name <;> rfl

theorem total_outcomes (previous : Snapshot) (fields : List (String × Json)) (c : Counter) :
    Entry.total (outcomes previous fields).journal c = 0 := by
  induction fields with
  | nil => rfl
  | cons f fields ih =>
    have hfirst := total_outcome previous f.1 f.2 c
    simp only [outcomes, Journaled.journal_bind, Journaled.journal_pure, Entry.total_append,
      hfirst, ih]
    rfl

theorem total_reload (s : Store) (document : Json) (c : Counter) :
    Entry.total (s.reload document).journal c = 0 := by
  cases document with
  | obj fields =>
    have hfields := total_outcomes s.snapshot fields c
    simp only [reload, Journaled.journal_bind, Entry.total_append, hfields]
    rfl
  | _ => rfl

end Store

namespace DefinitionFile

/-- What is found at the path of a file with these bytes, or without any. -/
def stateOf : Option ByteArray → FileState
  | some bytes => .content bytes
  | none => .missing

/-- The document in a file: a JSON value, written in UTF-8. -/
def document? (file : Option ByteArray) : Option Json :=
  file.bind fun bytes => (String.fromUTF8? bytes).bind Json.ofText?

/-- A file that no definitions can be read from. -/
inductive Unusable : Option ByteArray → Prop
  | missing : Unusable none
  | notText {bytes : ByteArray} (h : ¬ bytes.IsValidUTF8) : Unusable (some bytes)
  | notJson {text : String} (h : Json.ofText? text = none) : Unusable (some text.toUTF8)
  | notObject {text : String} {document : Json} (h : Json.ofText? text = some document)
    (hfields : document.fields? = none) : Unusable (some text.toUTF8)

theorem fromUTF8?_toUTF8 (text : String) : String.fromUTF8? text.toUTF8 = some text :=
  dif_pos text.isValidUTF8

theorem eq_toUTF8_of_fromUTF8? {bytes : ByteArray} {text : String}
    (h : String.fromUTF8? bytes = some text) : bytes = text.toUTF8 := by
  rw [String.fromUTF8?] at h
  split at h
  · rw [← Option.some.inj h]
    rfl
  · simp at h

theorem not_isValidUTF8_of_fromUTF8? {bytes : ByteArray} (h : String.fromUTF8? bytes = none) :
    ¬ bytes.IsValidUTF8 := by
  intro hvalid
  rw [String.fromUTF8?, dif_pos hvalid] at h
  simp at h

theorem document?_toUTF8 (text : String) : document? (some text.toUTF8) = Json.ofText? text := by
  rw [document?, Option.bind_some, fromUTF8?_toUTF8, Option.bind_some]

theorem Unusable.not_object {file : Option ByteArray} (h : Unusable file) {document : Json}
    (hdocument : document? file = some document) : document.fields? = none := by
  cases h with
  | missing => simp [document?] at hdocument
  | notText h =>
    rw [document?, Option.bind_some, String.fromUTF8?, dif_neg h] at hdocument
    simp at hdocument
  | notJson h =>
    rw [document?_toUTF8, h] at hdocument
    simp at hdocument
  | notObject h hfields =>
    rw [document?_toUTF8, h] at hdocument
    exact Option.some.inj hdocument ▸ hfields

theorem unusable_or_exists_object (file : Option ByteArray) :
    Unusable file ∨ ∃ document fields, document? file = some document ∧
      document.fields? = some fields := by
  -- the file, its bytes, its text and its document can each be what is wrong
  cases file with
  | none => exact .inl .missing
  | some bytes =>
    cases htext : String.fromUTF8? bytes with
    | none => exact .inl (.notText (not_isValidUTF8_of_fromUTF8? htext))
    | some text =>
      have hbytes := eq_toUTF8_of_fromUTF8? htext
      subst hbytes
      rw [document?_toUTF8]
      cases hjson : Json.ofText? text with
      | none => exact .inl (.notJson hjson)
      | some document =>
        cases hfields : document.fields? with
        | none => exact .inl (.notObject hjson hfields)
        | some fields => exact .inr ⟨document, fields, rfl, hfields⟩

variable {path : String} {file : Option ByteArray} {s : Store}

theorem readDocument_eq_ok {document : Json} (h : document? file = some document) :
    readDocument path (stateOf file) = .ok document := by
  obtain ⟨bytes, hfile, hbytes⟩ := Option.bind_eq_some_iff.mp h
  obtain ⟨text, htext, hjson⟩ := Option.bind_eq_some_iff.mp hbytes
  rw [hfile, readDocument, stateOf, readText]
  simp [htext, Except.bind, hjson]

theorem document?_of_readDocument {document : Json}
    (h : readDocument path (stateOf file) = .ok document) : document? file = some document := by
  cases file with
  | none => simp [readDocument, stateOf, readText, Except.bind] at h
  | some bytes =>
    cases htext : String.fromUTF8? bytes with
    | none => simp [readDocument, stateOf, readText, htext, Except.bind] at h
    | some text =>
      cases hjson : Json.ofText? text with
      | none => simp [readDocument, stateOf, readText, htext, hjson, Except.bind] at h
      | some found =>
        have hfound : found = document := by
          simpa [readDocument, stateOf, readText, htext, hjson, Except.bind] using h
        simp [document?, htext, hjson, hfound]

theorem value_load_of_error {e : Fault} (h : readDocument path (stateOf file) = .error e)
    (s : Store) : (load path (stateOf file) s).value = .error e := by
  simp [load, reload, h]

theorem value_load_of_ok {document : Json} (h : readDocument path (stateOf file) = .ok document)
    (s : Store) :
    (load path (stateOf file) s).value = (s.reload document).value.mapError .refused := by
  simp [load, reload, h]

/-- A load fails on a file that cannot be used, and reloads the document of any other. -/
theorem load_cases (path : String) (file : Option ByteArray) (s : Store) :
    (Unusable file ∧ ∃ e, (load path (stateOf file) s).value = .error e) ∨
      ¬ Unusable file ∧ ∃ document done, document? file = some document ∧
        (s.reload document).value = .ok done ∧
          (load path (stateOf file) s).value = .ok done := by
  rcases unusable_or_exists_object file with hunusable | ⟨document, fields, hdocument, hfields⟩
  · refine .inl ⟨hunusable, ?_⟩
    cases hread : readDocument path (stateOf file) with
    | error e => exact ⟨e, value_load_of_error hread s⟩
    | ok document =>
      have hnone := hunusable.not_object (document?_of_readDocument hread)
      refine ⟨.refused .badDocument, ?_⟩
      rw [value_load_of_ok hread, s.value_reload_of_fields?_eq_none hnone]
      rfl
  · right
    constructor
    · intro hunusable
      have hnone := hunusable.not_object hdocument
      simp [hfields] at hnone
    · obtain ⟨t, report, hreload⟩ := s.exists_reload_of_fields?_eq_some hfields
      refine ⟨document, (t, report), hdocument, hreload, ?_⟩
      rw [value_load_of_ok (readDocument_eq_ok hdocument), hreload]
      rfl

theorem exists_load_error_iff :
    (∃ e, (load path (stateOf file) s).value = .error e) ↔ Unusable file := by
  rcases load_cases path file s with ⟨hunusable, herror⟩ | ⟨husable, _, _, -, -, hload⟩
  · exact iff_of_true herror hunusable
  · rw [hload]
    exact iff_of_false (fun h => nomatch h) husable

theorem exists_reload_of_load {t : Store} {report : Report}
    (h : (load path (stateOf file) s).value = .ok (t, report)) :
    ∃ document, document? file = some document ∧
      (s.reload document).value = .ok (t, report) := by
  rcases load_cases path file s with ⟨-, e, herror⟩ | ⟨-, document, done, hdocument, hreload, hload⟩
  · simp [herror] at h
  · have hdone : done = (t, report) := Except.ok.inj (hload.symm.trans h)
    exact ⟨document, hdocument, hdone ▸ hreload⟩

/-- The label that a load is counted under. -/
def outcomeOf : Except Fault (Store × Report) → String
  | .error _ => "error"
  | .ok (_, report) => if report.failed = [] then "ok" else "partial"

theorem total_conclude (result : Except Fault (Store × Report)) (outcome : String) :
    Entry.total (conclude result).journal (.configReloads outcome) =
      if outcomeOf result = outcome then 1 else 0 := by
  cases result with
  | error e => by_cases h : "error" = outcome <;> simp [conclude, outcomeOf, Entry.total, h]
  | ok done =>
    obtain ⟨t, report⟩ := done
    by_cases hclean : report.failed = []
    · by_cases h : "ok" = outcome <;>
        simp [conclude, outcomeOf, Report.isClean, hclean, Entry.total, h]
    · by_cases h : "partial" = outcome <;>
        simp [conclude, outcomeOf, Report.isClean, hclean, Entry.total, h]

theorem total_reload (path : String) (file : FileState) (s : Store) (c : Counter) :
    Entry.total (reload path file s).journal c = 0 := by
  rw [reload]
  cases readDocument path file with
  | error e => rfl
  | ok document =>
    have hreload := s.total_reload document c
    simp only [Journaled.journal_bind, Journaled.journal_pure, List.append_nil, hreload]

/-- A load is counted once, under its own label. -/
theorem total_load (path : String) (file : FileState) (s : Store) (outcome : String) :
    Entry.total (load path file s).journal (.configReloads outcome) =
      if outcomeOf (load path file s).value = outcome then 1 else 0 := by
  have hvalue : (load path file s).value = (reload path file s).value := rfl
  have hjournal : (load path file s).journal = (reload path file s).journal ++
      ((conclude (reload path file s).value).journal ++ []) := rfl
  rw [hvalue, hjournal, List.append_nil, Entry.total_append, total_reload, total_conclude,
    Nat.zero_add]

/-- What is done to a file of definitions in the course of time. -/
inductive Act
  | write (bytes : ByteArray)
  | remove
  | load

/-- One load: the file and the store that it found, and what came of it. -/
structure Attempt where
  file : Option ByteArray
  store : Store
  result : Except Fault (Store × Report)

namespace Attempt

/-- The store after the load. -/
def after (a : Attempt) : Store := DefinitionFile.after a.store a.result

/-- The document that was loaded. -/
def loaded? (a : Attempt) : Option Json :=
  match a.result with
  | .ok _ => document? a.file
  | .error _ => none

variable {a : Attempt}

theorem after_of_error {e : Fault} (h : a.result = .error e) : a.after = a.store := by
  rw [after, h, DefinitionFile.after]

theorem after_of_ok {t : Store} {report : Report} (h : a.result = .ok (t, report)) :
    a.after = t := by
  rw [after, h, DefinitionFile.after]

end Attempt

/-- Acts one after the other on a file and a store: the loads among them, and the store in the
end. -/
def perform (path : String) : List Act → Option ByteArray → Store →
    Journaled (List Attempt × Store)
  | [], _, s => pure ([], s)
  | .write bytes :: rest, _, s => perform path rest (some bytes) s
  | .remove :: rest, _, s => perform path rest none s
  | .load :: rest, file, s => do
    let result ← load path (stateOf file) s
    let (attempts, last) ← perform path rest file (DefinitionFile.after s result)
    return (⟨file, s, result⟩ :: attempts, last)

theorem result_of_mem_perform {acts : List Act} {a : Attempt}
    (h : a ∈ (perform path acts file s).value.1) :
    a.result = (load path (stateOf a.file) a.store).value := by
  induction acts generalizing file s with
  | nil => simp [perform] at h
  | cons act rest ih =>
    cases act with
    | write bytes => exact ih h
    | remove => exact ih h
    | load =>
      rcases List.mem_cons.mp h with hfirst | hrest
      · rw [hfirst]
      · exact ih hrest

/-- The store in the end is that of the documents that were loaded. -/
theorem store_perform (path : String) (acts : List Act) (file : Option ByteArray) (s : Store) :
    (perform path acts file s).value.2 =
      s.replay ((perform path acts file s).value.1.filterMap Attempt.loaded?) := by
  induction acts generalizing file s with
  | nil => rfl
  | cons act rest ih =>
    cases act with
    | write bytes => exact ih (some bytes) s
    | remove => exact ih none s
    | load =>
      simp only [perform, Journaled.value_bind, Journaled.value_pure]
      rw [ih, List.filterMap_cons]
      cases hload : (load path (stateOf file) s).value with
      | error e => rfl
      | ok done =>
        obtain ⟨t, report⟩ := done
        obtain ⟨document, hdocument, hreload⟩ := exists_reload_of_load hload
        have hstore := Store.reloaded_eq_of_reload hreload
        simp only [Attempt.loaded?, DefinitionFile.after, hdocument, Store.replay,
          List.foldl_cons, hstore]

theorem total_perform (path : String) (acts : List Act) (file : Option ByteArray) (s : Store)
    (outcome : String) :
    Entry.total (perform path acts file s).journal (.configReloads outcome) =
      (perform path acts file s).value.1.countP fun a => outcomeOf a.result = outcome := by
  induction acts generalizing file s with
  | nil => rfl
  | cons act rest ih =>
    cases act with
    | write bytes => exact ih (some bytes) s
    | remove => exact ih none s
    | load =>
      simp only [perform, Journaled.value_bind, Journaled.value_pure, Journaled.journal_bind,
        Journaled.journal_pure, List.append_nil, Entry.total_append, List.countP_cons]
      rw [total_load, ih, Nat.add_comm]
      simp only [decide_eq_true_eq]

theorem refresh_eq_ok_iff (path : String) (file : FileState) (s : Store) :
    (refresh path file s).value.1 = .ok () ↔ ∃ done, (load path file s).value = .ok done := by
  have hanswer : (refresh path file s).value.1 = (load path file s).value.map fun _ => () := rfl
  rw [hanswer]
  cases (load path file s).value with
  | error e => simp [Except.map]
  | ok done => simp [Except.map]

/-- Whatever is done to the file, a load fails exactly when the file that it finds cannot be used.
Then the store stays as it was, and its subscribers have nothing new to see; otherwise the load is
a reload of the document in the file. So the store in the end is what the documents of the loads
that went well make of it, in their order. Each load is counted once, by how it went, and a refresh
is a load of which only that is told. -/
theorem perform_eq_replay (path : String) (acts : List Act) (file : Option ByteArray) (s : Store) :
    (∀ a ∈ (perform path acts file s).value.1,
      ((∃ e, a.result = .error e) ↔ Unusable a.file) ∧
      (∀ e, a.result = .error e → a.after = a.store ∧
        ∀ r : Subscriber, r.hasChanged a.after = r.hasChanged a.store) ∧
      ∀ t report, a.result = .ok (t, report) → a.after = t ∧
        ∃ document, document? a.file = some document ∧
          (a.store.reload document).value = .ok (t, report)) ∧
    (perform path acts file s).value.2 =
      s.replay ((perform path acts file s).value.1.filterMap Attempt.loaded?) ∧
    (∀ outcome, Entry.total (perform path acts file s).journal (.configReloads outcome) =
      (perform path acts file s).value.1.countP fun a => outcomeOf a.result = outcome) ∧
    ∀ state t, ((refresh path state t).value.1 = .ok () ↔
        ∃ done, (load path state t).value = .ok done) ∧
      (refresh path state t).value.2 = after t (load path state t).value ∧
      (refresh path state t).journal = (load path state t).journal := by
  refine ⟨?_, store_perform path acts file s, total_perform path acts file s, ?_⟩
  · intro a ha
    have hresult := result_of_mem_perform ha
    refine ⟨?_, ?_, ?_⟩
    · rw [hresult]
      exact exists_load_error_iff
    · intro e he
      have hafter := Attempt.after_of_error he
      refine ⟨hafter, fun r => ?_⟩
      rw [hafter]
    · intro t report hok
      exact ⟨Attempt.after_of_ok hok, exists_reload_of_load (hresult ▸ hok)⟩
  · intro state t
    exact ⟨refresh_eq_ok_iff path state t, rfl, List.append_nil _⟩

def teamText : String :=
  "\x7b\"team\": \x7b\"type\": \"filtered\", \"url\": \"https://example.com/team.ics\"\x7d\x7d"

/-- A file that is proper at first, then no text, then missing, then no object, and at last names
a calendar without defining it. -/
def outage : List Act := [
  .write teamText.toUTF8, .load, .write ⟨#[0xff]⟩, .load, .remove, .load,
  .write "[]".toUTF8, .load, .write "\x7b\"team\": null\x7d".toUTF8, .load]

theorem perform_eq_replay_outage :
    (∃ a ∈ (perform "calendars.json" outage none {}).value.1,
      a.file = none ∧ (∃ e, a.result = .error e) ∧ a.after = a.store) ∧
    (perform "calendars.json" outage none {}).value.1.countP
      (fun a => outcomeOf a.result = "error") = 3 ∧
    (perform "calendars.json" outage none {}).value.2.snapshot.version = 2 ∧
    (perform "calendars.json" outage none {}).value.2.snapshot.names = ["team"] := by
  obtain ⟨hattempts, -, hcount, -⟩ := perform_eq_replay "calendars.json" outage none {}
  have hmissing : none ∈ (perform "calendars.json" outage none {}).value.1.map Attempt.file := by
    simp [outage, perform]
  obtain ⟨a, ha, hfile⟩ := List.mem_map.mp hmissing
  obtain ⟨hfails, hfailed, -⟩ := hattempts a ha
  obtain ⟨e, he⟩ := hfails.mpr (hfile ▸ .missing)
  refine ⟨⟨a, ha, hfile, ⟨e, he⟩, (hfailed e he).1⟩, ?_, ?_, ?_⟩
  · rw [← hcount]
    decide +kernel
  · decide +kernel
  · decide +kernel

end DefinitionFile

end CalendarRelay
