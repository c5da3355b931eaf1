import CalendarRelay.Catalogue.Store
import CalendarRelay.Proofs.KeyOrder

namespace CalendarRelay

namespace Definition

theorem name_of_filteredOfFields {name : String} {fields : List (String × Json)} {d : Definition}
    (h : filteredOfFields name fields = .ok d) : d.name = name := by
  simp only [filteredOfFields, bind, Except.bind] at h
  split at h
  · simp at h
  · split at h
    · split at h
      · exact Except.ok.inj h ▸ rfl
      · split at h
        · simp at h
        · exact Except.ok.inj h ▸ rfl
      · simp at h
    · simp at h

theorem name_of_mergedOfFields {name : String} {fields : List (String × Json)} {d : Definition}
    (h : mergedOfFields name fields = .ok d) : d.name = name := by
  simp only [mergedOfFields, bind, Except.bind] at h
  split at h
  · simp at h
  · split at h
    · simp at h
    · split at h
      · simp at h
      · exact Except.ok.inj h ▸ rfl
    · simp at h

theorem name_of_bodyOfJson {name : String} {j : Json} {d : Definition}
    (h : bodyOfJson name j = .ok d) : d.name = name := by
  simp only [bodyOfJson, bind, Except.bind] at h
  split at h
  · split at h
    · simp at h
    · split at h
      · exact name_of_filteredOfFields h
      · split at h
        · exact name_of_mergedOfFields h
        · simp at h
  · simp at h

/-- A definition has the name that it was read for. -/
theorem name_of_ofJson {name : String} {j : Json} {d : Definition}
    (h : Definition.ofJson name j = .ok d) : d.name = name := by
  rw [ofJson] at h
  split at h
  · cases hbody : bodyOfJson name j with
    | error e => simp [hbody, Except.mapError] at h
    | ok found =>
      have hd : found = d := by simpa [hbody, Except.mapError] using h
      rw [← hd]
      exact name_of_bodyOfJson hbody
  · simp at h

end Definition

theorem Snapshot.mem_names_iff {s : Snapshot} {name : String} :
    name ∈ s.names ↔ (s.get? name).isSome := by
  simp only [names, get?, List.mem_map, Option.isSome_map, List.find?_isSome, beq_iff_eq]

namespace Store

/-- The store after a reload, which is the one before if the document was refused. -/
def reloaded (s : Store) (document : Json) : Store :=
  match (s.reload document).value with
  | .ok (t, _) => t
  | .error _ => s

/-- The store after reloading documents one after the other. -/
def replay (s : Store) (documents : List Json) : Store := documents.foldl reloaded s

theorem definition?_outcome (previous : Snapshot) (name : String) (j : Json) :
    (outcome previous name j).value.definition? =
      (Definition.ofJson name j).toOption.or (previous.get? name) := by
  rw [outcome]
  cases hd : Definition.ofJson name j with
  | ok d => rfl
  | error fault =>
    cases hp : previous.get? name with
    | none => simp [Outcome.definition?, Except.toOption]
    | some d => simp [Outcome.definition?, Except.toOption]

theorem value_outcomes (previous : Snapshot) (fields : List (String × Json)) :
    (outcomes previous fields).value =
      fields.map fun f => (f.1, (outcome previous f.1 f.2).value) := by
  induction fields with
  | nil => rfl
  | cons f fields ih => simp [outcomes, ih]

theorem find?_filterMap {fields : List (String × Json)} (h : (fields.map Prod.fst).Nodup)
    (g : String → Json → Option Definition) (name : String) :
    ((fields.filterMap fun f => (g f.1 f.2).map fun d => (f.1, d)).find? (·.1 == name)).map
      Prod.snd = (Json.lookup? fields name).bind (g name) := by
  induction fields with
  | nil => rfl
  | cons f fields ih =>
    obtain ⟨key, j⟩ := f
    obtain ⟨hkey, hfields⟩ := List.nodup_cons.mp h
    have hrest := ih hfields
    rw [Json.lookup?_cons, List.filterMap_cons]
    by_cases hname : key = name
    · subst hname
      rw [Json.lookup?_eq_none_iff.mpr hkey] at hrest
      cases hg : g key j with
      | none =>
        simpa only [hg, Option.map_none, if_true, Option.bind_none, Option.bind_some] using hrest
      | some d => simp [hg]
    · cases hg : g key j with
      | none => simpa only [hg, Option.map_none, if_neg hname] using hrest
      | some d => simpa [hg, hname] using hrest

theorem reloaded_of_fields?_eq_none (s : Store) {document : Json} (h : document.fields? = none) :
    s.reloaded document = s := by
  cases document <;> first | rfl | simp [Json.fields?] at h

theorem version_reloaded (s : Store) (fields : List (String × Json)) :
    (s.reloaded (.obj fields)).snapshot.version = s.snapshot.version + 1 := rfl

/-- A reload keeps a calendar that the document names, with its definition there if that is a
proper one and else with the one it had. -/
theorem get?_reloaded (s : Store) {fields : List (String × Json)} (h : Json.Ordered fields)
    (name : String) : (s.reloaded (.obj fields)).snapshot.get? name =
      (Json.lookup? fields name).bind fun j =>
        (Definition.ofJson name j).toOption.or (s.snapshot.get? name) := by
  have hdefinitions : (s.reloaded (.obj fields)).snapshot.definitions =
      fields.filterMap fun f =>
        ((Definition.ofJson f.1 f.2).toOption.or (s.snapshot.get? f.1)).map fun d => (f.1, d) := by
    have hfound : (s.reloaded (.obj fields)).snapshot.definitions =
        (outcomes s.snapshot fields).value.filterMap fun f =>
          f.2.definition?.map fun d => (f.1, d) := rfl
    rw [hfound, value_outcomes, List.filterMap_map]
    simp only [Function.comp_def, definition?_outcome]
  rw [Snapshot.get?, hdefinitions]
  exact find?_filterMap h.nodup
    (fun key j => (Definition.ofJson key j).toOption.or (s.snapshot.get? key)) name

/-- The `i`-th document of a history gives the calendar a proper definition, and every document
from there on names the calendar. -/
structure Standing (history : List (List (String × Json))) (name : String) (i : Nat)
    (d : Definition) : Prop where
  named : ∀ fields ∈ history.drop i, (Json.lookup? fields name).isSome
  defined : ∃ fields j, history[i]? = some fields ∧ Json.lookup? fields name = some j ∧
    Definition.ofJson name j = .ok d

/-- The last document of a history that gives the calendar a standing definition. -/
def Latest (history : List (List (String × Json))) (name : String) (i : Nat)
    (d : Definition) : Prop :=
  Standing history name i d ∧ ∀ k e, Standing history name k e → k ≤ i

variable {history : List (List (String × Json))} {fields : List (String × Json)} {name : String}
  {i : Nat} {d : Definition}

theorem not_standing_nil : ¬ Standing [] name i d := by
  intro h
  obtain ⟨fields, j, hi, -⟩ := h.defined
  simp at hi

theorem Standing.lt_length (h : Standing history name i d) : i < history.length := by
  obtain ⟨fields, j, hi, -⟩ := h.defined
  exact (List.getElem?_eq_some_iff.mp hi).1

/-- One more document leaves standing what it names, besides what it defines itself. -/
theorem standing_append_iff : Standing (history ++ [fields]) name i d ↔
    ∃ j, Json.lookup? fields name = some j ∧
      (Standing history name i d ∨ i = history.length ∧ Definition.ofJson name j = .ok d) := by
  constructor
  · rintro ⟨hnamed, found, j, hi, hj, hd⟩
    have hlt : i < (history ++ [fields]).length := (List.getElem?_eq_some_iff.mp hi).1
    have hle : i ≤ history.length := by
      rw [List.length_append, List.length_singleton] at hlt
      omega
    rw [List.drop_append_of_le_length hle] at hnamed
    obtain ⟨j', hj'⟩ := Option.isSome_iff_exists.mp (hnamed fields (by simp))
    refine ⟨j', hj', ?_⟩
    rcases Nat.eq_or_lt_of_le hle with rfl | hlt
    · have hfound : found = fields := by simpa using hi.symm
      subst hfound
      have hjj : j' = j := Option.some.inj (hj'.symm.trans hj)
      exact .inr ⟨rfl, hjj ▸ hd⟩
    · rw [List.getElem?_append_left hlt] at hi
      exact .inl ⟨fun f hf => hnamed f (by simp [hf]), found, j, hi, hj, hd⟩
  · rintro ⟨j, hj, h | ⟨rfl, hd⟩⟩
    · obtain ⟨found, j', hi, hj', hd⟩ := h.defined
      refine ⟨?_, found, j', ?_, hj', hd⟩
      · rw [List.drop_append_of_le_length h.lt_length.le]
        intro f hf
        rcases List.mem_append.mp hf with hf | hf
        · exact h.named f hf
        · have hf : f = fields := by simpa using hf
          simp [hf, hj]
      · rw [List.getElem?_append_left h.lt_length]
        exact hi
    · exact ⟨by simp [hj], fields, j, by simp, hj, hd⟩

theorem latest_append_of_ok {j : Json} {e : Definition} (hj : Json.lookup? fields name = some j)
    (he : Definition.ofJson name j = .ok e) :
    Latest (history ++ [fields]) name i d ↔ i = history.length ∧ d = e := by
  have hlast : Standing (history ++ [fields]) name history.length e :=
    standing_append_iff.mpr ⟨j, hj, .inr ⟨rfl, he⟩⟩
  constructor
  · rintro ⟨hstanding, hmax⟩
    have hle := hmax _ _ hlast
    obtain ⟨j', hj', hbefore | ⟨hi, hd⟩⟩ := standing_append_iff.mp hstanding
    · have hlt := hbefore.lt_length
      omega
    · have hjj : j' = j := Option.some.inj (hj'.symm.trans hj)
      exact ⟨hi, Except.ok.inj ((hjj ▸ hd).symm.trans he)⟩
  · rintro ⟨rfl, rfl⟩
    refine ⟨hlast, ?_⟩
    intro k e' hk
    have hlt := hk.lt_length
    rw [List.length_append, List.length_singleton] at hlt
    omega

theorem latest_append_of_error {j : Json} {e : Definition.Fault}
    (hj : Json.lookup? fields name = some j) (he : Definition.ofJson name j = .error e) :
    Latest (history ++ [fields]) name i d ↔ Latest history name i d := by
  have hstanding : ∀ k e', Standing (history ++ [fields]) name k e' ↔
      Standing history name k e' := by
    intro k e'
    rw [standing_append_iff]
    simp [hj, he]
  rw [Latest, Latest]
  simp only [hstanding]

theorem not_latest_append (hj : Json.lookup? fields name = none) :
    ¬ Latest (history ++ [fields]) name i d := by
  rintro ⟨hstanding, -⟩
  obtain ⟨j, hj', -⟩ := standing_append_iff.mp hstanding
  simp [hj] at hj'

theorem exists_latest (h : Standing history name i d) : ∃ k e, Latest history name k e := by
  induction history using List.reverseRecOn generalizing i d with
  | nil => exact absurd h not_standing_nil
  | append_singleton history fields ih =>
    obtain ⟨j, hj, hbefore⟩ := standing_append_iff.mp h
    cases he : Definition.ofJson name j with
    | ok e => exact ⟨_, e, (latest_append_of_ok hj he).mpr ⟨rfl, rfl⟩⟩
    | error e =>
      have hbefore : Standing history name i d := by simpa [he] using hbefore
      obtain ⟨k, e', hlatest⟩ := ih hbefore
      exact ⟨k, e', (latest_append_of_error hj he).mpr hlatest⟩

/-- The store after the documents of a history that are objects. -/
def ofHistory (history : List (List (String × Json))) : Store :=
  replay {} (history.map .obj)

theorem ofHistory_append : ofHistory (history ++ [fields]) =
    (ofHistory history).reloaded (.obj fields) := by
  simp [ofHistory, replay]

theorem version_ofHistory (history : List (List (String × Json))) :
    (ofHistory history).snapshot.version = history.length := by
  induction history using List.reverseRecOn with
  | nil => rfl
  | append_singleton history fields ih =>
    rw [ofHistory_append, version_reloaded, ih, List.length_append, List.length_singleton]

/-- The documents that a store accepts, which are the objects. -/
def accepted (documents : List Json) : List (List (String × Json)) :=
  documents.filterMap Json.fields?

/-- Documents that are no objects leave no trace. -/
theorem replay_eq_ofHistory (documents : List Json) :
    replay {} documents = ofHistory (accepted documents) := by
  induction documents using List.reverseRecOn with
  | nil => rfl
  | append_singleton documents document ih =>
    have hreplay : replay {} (documents ++ [document]) =
        (replay {} documents).reloaded document := by simp [replay]
    rw [hreplay, ih, accepted, accepted, List.filterMap_append]
    cases hf : document.fields? with
    | none =>
      rw [reloaded_of_fields?_eq_none _ hf]
      simp [hf]
    | some fields =>
      have hdocument : document = .obj fields := by
        cases document <;> simp_all [Json.fields?]
      rw [hdocument, ← ofHistory_append]
      rfl

/-- The definition of a calendar in the store is the latest standing one. -/
theorem get?_ofHistory_iff (h : ∀ fields ∈ history, Json.Ordered fields) :
    (ofHistory history).snapshot.get? name = some d ↔ ∃ i, Latest history name i d := by
  induction history using List.reverseRecOn with
  | nil =>
    constructor
    · intro hd
      exact absurd hd (by simp [ofHistory, replay, Snapshot.get?])
    · rintro ⟨i, hi, -⟩
      exact absurd hi not_standing_nil
  | append_singleton history fields ih =>
    have hbefore := ih fun f hf => h f (by simp [hf])
    rw [ofHistory_append, get?_reloaded _ (h fields (by simp))]
    cases hj : Json.lookup? fields name with
    | none => simp [not_latest_append hj]
    | some j =>
      cases he : Definition.ofJson name j with
      | ok e => simp [latest_append_of_ok hj he, Except.toOption, he, eq_comm]
      | error e => simp [latest_append_of_error hj he, Except.toOption, he, hbefore]

/-- A calendar that a document does not name owes nothing to the documents before. -/
theorem Standing.lt_of_lookup?_eq_none (h : Standing history name i d) {k : Nat}
    (hk : history[k]? = some fields) (hname : Json.lookup? fields name = none) : k < i := by
  by_contra hle
  have hmem : fields ∈ history.drop i := by
    rw [List.mem_iff_getElem?]
    refine ⟨k - i, ?_⟩
    rw [List.getElem?_drop, Nat.add_sub_cancel' (not_lt.mp hle), hk]
  have hsome := h.named fields hmem
  simp [hname] at hsome

/-- What a new store holds after any run of reloads. Its version counts the documents that were
accepted. A calendar is in it when one of these gives it a proper definition and all from there on
name it, and its definition is the one from the last such document. A document that does not name
a calendar ends what was before. -/
theorem snapshot_replay (documents : List Json) (h : ∀ j ∈ documents, j.IsOrdered) :
    (replay {} documents).snapshot.version = (accepted documents).length ∧
      (∀ name, name ∈ (replay {} documents).snapshot.names ↔
        ∃ i d, Standing (accepted documents) name i d) ∧
      (∀ name d, (replay {} documents).snapshot.get? name = some d ↔
        ∃ i, Latest (accepted documents) name i d) ∧
      (∀ name d, (replay {} documents).snapshot.get? name = some d → d.name = name) ∧
      ∀ name k fields, (accepted documents)[k]? = some fields → Json.lookup? fields name = none →
        ∀ i d, Standing (accepted documents) name i d → k < i := by
  have hordered : ∀ fields ∈ accepted documents, Json.Ordered fields := by
    intro fields hfields
    obtain ⟨j, hj, hf⟩ := List.mem_filterMap.mp hfields
    exact h j hj fields hf
  have hget : ∀ name d, (replay {} documents).snapshot.get? name = some d ↔
      ∃ i, Latest (accepted documents) name i d := by
    intro name d
    rw [replay_eq_ofHistory]
    exact get?_ofHistory_iff hordered
  refine ⟨?_, ?_, hget, ?_, fun _ _ _ hk hname _ _ hs => hs.lt_of_lookup?_eq_none hk hname⟩
  · rw [replay_eq_ofHistory, version_ofHistory]
  · intro name
    rw [Snapshot.mem_names_iff, Option.isSome_iff_exists]
    constructor
    · rintro ⟨d, hd⟩
      obtain ⟨i, hi⟩ := (hget name d).mp hd
      exact ⟨i, d, hi.1⟩
    · rintro ⟨i, d, hi⟩
      obtain ⟨k, e, hk⟩ := exists_latest hi
      exact ⟨e, (hget name e).mpr ⟨k, hk⟩⟩
  · intro name d hd
    obtain ⟨i, hi, -⟩ := (hget name d).mp hd
    obtain ⟨fields, j, -, -, hj⟩ := hi.defined
    exact Definition.name_of_ofJson hj

/-- A proper definition, a document without it, one that is refused, and one where it is broken. -/
def troubledRun : List Json := [
  .obj [("team", .obj [("type", .str "filtered"), ("url", .str "https://example.com/a.ics")])],
  .obj [], .arr [], .obj [("team", .null)]]

theorem isOrdered_troubledRun : ∀ j ∈ troubledRun, j.IsOrdered := by
  have hone (j : Json) : (Json.obj [("team", j)]).IsOrdered := by
    rintro _ ⟨⟩
    exact List.pairwise_singleton _ _
  have hnone : (Json.obj []).IsOrdered := by
    rintro _ ⟨⟩
    exact .nil
  have hrefused : (Json.arr []).IsOrdered := Json.isOrdered_of_fields?_eq_none rfl
  simp [troubledRun, hone, hnone, hrefused]

theorem snapshot_replay_troubledRun : (∀ j ∈ troubledRun, j.IsOrdered) ∧
    (replay {} troubledRun).snapshot.version = 3 ∧
      "team" ∉ (replay {} troubledRun).snapshot.names := by
  obtain ⟨hversion, hnames, -, -, hdropped⟩ := snapshot_replay troubledRun isOrdered_troubledRun
  refine ⟨isOrdered_troubledRun, hversion, ?_⟩
  rw [hnames]
  rintro ⟨i, d, hi⟩
  have hlt : 1 < i := hdropped "team" 1 [] rfl rfl i d hi
  have hlength : i < 3 := hi.lt_length
  have h2 : i = 2 := by omega
  subst h2
  obtain ⟨fields, j, hfields, hj, hd⟩ := hi.defined
  have hfields : fields = [("team", .null)] := (Option.some.inj hfields).symm
  subst hfields
  have hj : j = .null := (Option.some.inj hj).symm
  subst hj
  have herror : (Definition.ofJson "team" .null).toOption = none := by rfl
  simp [hd, Except.toOption] at herror

end Store

end CalendarRelay
