import CalendarRelay.Proofs.Course
import CalendarRelay.Proofs.Effect
import CalendarRelay.Proofs.Reading
import CalendarRelay.Proofs.Privacy

namespace CalendarRelay

open Text Rule

namespace Property

/-- A property as the reader makes it. -/
structure WellKept (p : Property) : Prop where
  name : ∀ c ∈ p.name.toList, c.isLower = false
  params : ∀ q ∈ p.params, (∀ c ∈ q.1.toList, c.isLower = false) ∧ q.1 ≠ "VALUE"
  valueType : ∀ c ∈ p.valueType.toList, c.isUpper = false
  values : p.values ≠ []

/-- All of a property but its first value. -/
def withoutFirst (p : Property) : Property := { p with values := p.values.tail }

theorem withoutFirst_withValue (p : Property) (v : String) :
    (p.withValue v).withoutFirst = p.withoutFirst := rfl

theorem withoutFirst_mapValue (f : String → String) (p : Property) :
    (p.mapValue f).withoutFirst = p.withoutFirst := by
  obtain ⟨name, params, valueType, values⟩ := p
  cases values <;> rfl

theorem values_mapValue_ne_nil {f : String → String} {p : Property} (h : p.values ≠ []) :
    (p.mapValue f).values ≠ [] := by
  obtain ⟨name, params, valueType, values⟩ := p
  cases values with
  | nil => exact absurd rfl h
  | cons v rest => exact List.cons_ne_nil _ _

/-- The first value plays no part in how a property is kept, as long as there is one. -/
theorem WellKept.of_withoutFirst_eq {p q : Property} (h : p.WellKept)
    (hsame : q.withoutFirst = p.withoutFirst) (hvalues : q.values ≠ []) : q.WellKept := by
  obtain ⟨hname, hparams, htype, -⟩ := Property.mk.inj hsame
  exact ⟨hname ▸ h.name, hparams ▸ h.params, htype ▸ h.valueType, hvalues⟩

end Property

namespace Record

def WellKept (r : Record) : Prop := ∀ p ∈ r, p.WellKept

theorem mem_modifyNamed {r : Record} {name : String} {f : Property → Property} {q : Property}
    (h : q ∈ r.modifyNamed name f) : q ∈ r ∨ ∃ p ∈ r, q = f p := by
  induction r with
  | nil => simp [modifyNamed] at h
  | cons p r ih =>
    rw [modifyNamed] at h
    split at h
    · rcases List.mem_cons.mp h with hq | hq
      · exact .inr ⟨p, List.mem_cons_self, hq⟩
      · exact .inl (List.mem_cons_of_mem p hq)
    · rcases List.mem_cons.mp h with hq | hq
      · exact .inl (hq ▸ List.mem_cons_self)
      · rcases ih hq with hmem | ⟨p', hp', hq⟩
        · exact .inl (List.mem_cons_of_mem p hmem)
        · exact .inr ⟨p', List.mem_cons_of_mem p hp', hq⟩

theorem map_modifyNamed {α : Type} {g : Property → α} {f : Property → Property}
    (hf : ∀ p, g (f p) = g p) (r : Record) (name : String) :
    (r.modifyNamed name f).map g = r.map g := by
  induction r with
  | nil => rfl
  | cons p r ih =>
    rw [modifyNamed]
    split
    · rw [List.map_cons, List.map_cons, hf]
    · rw [List.map_cons, List.map_cons, ih]

/-- Where every property has a value, the first of a name is the first with a value. -/
theorem lineOf?_eq_named? {r : Record} (h : r.WellKept) (name : String) :
    r.lineOf? name = r.named? name := by
  induction r with
  | nil => rfl
  | cons p r ih =>
    have hrest := ih fun q hq => h q (List.mem_cons_of_mem p hq)
    have hvalue : p.value?.isSome = true := by
      have hvalues := (h p List.mem_cons_self).values
      rwa [Property.value?, List.isSome_head?]
    rw [lineOf?, named?, List.find?_cons, List.find?_cons, hvalue, Bool.and_true]
    cases p.isNamed name with
    | true => rfl
    | false => exact hrest

/-- What is changed under a name is the first property of the name, in its place. -/
theorem exists_modifyNamed_eq {r : Record} {name : String} {p : Property}
    (h : r.named? name = some p) : ∃ before after, r = before ++ p :: after ∧
      ∀ f, r.modifyNamed name f = before ++ f p :: after := by
  obtain ⟨hp, before, after, hr, hbefore⟩ := List.find?_eq_some_iff_append.mp h
  have hunnamed : ∀ q ∈ before, q.isNamed name = false := by simpa using hbefore
  exact ⟨before, after, hr, fun f => by rw [hr, modifyNamed_append hunnamed hp]⟩

end Record

namespace Rule

namespace Operation

variable {op : Operation} {r s : Record}

/-- An operation that does not remove the event changes a first value of it at the most. -/
theorem exists_modifyNamed_of_apply (h : op.apply r = some s) : ∃ name f,
    s = r.modifyNamed name f ∧ ∀ p : Property,
      (f p).withoutFirst = p.withoutFirst ∧ (p.values ≠ [] → (f p).values ≠ []) := by
  cases op with
  | remove => simp [apply] at h
  | edit key value =>
    refine ⟨key, _, (Option.some.inj h).symm, fun p => ⟨p.withoutFirst_withValue value, ?_⟩⟩
    intro _
    exact List.cons_ne_nil _ _
  | editRegex key pattern replacement =>
    refine ⟨key, _, (Option.some.inj h).symm, fun p => ⟨p.withoutFirst_mapValue _, ?_⟩⟩
    exact Property.values_mapValue_ne_nil

theorem map_withoutFirst_apply (h : op.apply r = some s) :
    s.map Property.withoutFirst = r.map Property.withoutFirst := by
  obtain ⟨name, f, hs, hf⟩ := exists_modifyNamed_of_apply h
  rw [hs]
  exact Record.map_modifyNamed (fun p => (hf p).1) r name

theorem wellKept_apply (h : op.apply r = some s) (hr : r.WellKept) : s.WellKept := by
  obtain ⟨name, f, hs, hf⟩ := exists_modifyNamed_of_apply h
  intro q hq
  rw [hs] at hq
  rcases Record.mem_modifyNamed hq with hmem | ⟨p, hp, hqp⟩
  · exact hr q hmem
  · have hkept := hr p hp
    rw [hqp]
    exact hkept.of_withoutFirst_eq (hf p).1 ((hf p).2 hkept.values)

/-- What an event is before, between and after operations. -/
inductive Stage : List Operation → Record → Record → Prop
  | here (ops : List Operation) (r : Record) : Stage ops r r
  | later {op : Operation} {ops : List Operation} {r s t : Record} (happly : op.apply r = some s)
    (rest : Stage ops s t) : Stage (op :: ops) r t

theorem Edits.stage {ops : List Operation} (h : Edits ops r (some s)) : Stage ops r s := by
  generalize hout : some s = out at h
  induction h with
  | done r =>
    have hr : s = r := Option.some.inj hout
    exact hr ▸ .here [] s
  | removed ops r => simp at hout
  | edited happly _ ih => exact .later happly (ih hout)

theorem Stage.invariant {P : Record → Prop} {ops : List Operation}
    (hstep : ∀ (op : Operation) (r s : Record), op.apply r = some s → P r → P s)
    (h : Stage ops r s) (hr : P r) : P s := by
  induction h with
  | here ops r => exact hr
  | later happly _ ih => exact ih (hstep _ _ _ happly hr)

end Operation

/-- What an event is at any point of its course through rules: as a rule finds it, or as one of
its operations does, or at the end. -/
inductive Stage : List Rule → Record → Record → Prop
  | here (rules : List Rule) (r : Record) : Stage rules r r
  | skipped {rule : Rule} {rules : List Rule} {r t : Record}
    (hfilter : (rule.filter.holds r).value = false) (rest : Stage rules r t) :
    Stage (rule :: rules) r t
  | within {rule : Rule} {rules : List Rule} {r t : Record}
    (hfilter : (rule.filter.holds r).value = true)
    (stage : Operation.Stage rule.operations r t) : Stage (rule :: rules) r t
  | edited {rule : Rule} {rules : List Rule} {r s t : Record}
    (hfilter : (rule.filter.holds r).value = true)
    (edits : Operation.Edits rule.operations r (some s)) (rest : Stage rules s t) :
    Stage (rule :: rules) r t

variable {rules : List Rule} {r s : Record} {n : Nat}

theorem Course.stage (h : Course rules r (some s) n) : Stage rules r s := by
  generalize hout : some s = out at h
  induction h with
  | done r =>
    have hr : s = r := Option.some.inj hout
    exact hr ▸ .here [] s
  | skipped hfilter _ ih => exact .skipped hfilter (ih hout)
  | removed hfilter edits => simp at hout
  | edited hfilter edits _ ih => exact .edited hfilter edits (ih hout)

/-- What every operation preserves holds of an event at any point of its course. -/
theorem Stage.invariant {P : Record → Prop}
    (hstep : ∀ (op : Operation) (r s : Record), op.apply r = some s → P r → P s)
    (h : Stage rules r s) (hr : P r) : P s := by
  induction h with
  | here rules r => exact hr
  | skipped _ _ ih => exact ih hr
  | within _ stage => exact stage.invariant hstep hr
  | edited _ edits _ ih => exact ih (edits.stage.invariant hstep hr)

theorem Stage.wellKept (h : Stage rules r s) (hr : r.WellKept) : s.WellKept :=
  h.invariant (fun _ _ _ => Operation.wellKept_apply) hr

theorem Stage.map_withoutFirst (h : Stage rules r s) :
    s.map Property.withoutFirst = r.map Property.withoutFirst := by
  -- carried along the course: the event is what it was in the beginning, but for first values
  have hstep : ∀ (op : Operation) (a b : Record), op.apply a = some b →
      a.map Property.withoutFirst = r.map Property.withoutFirst →
      b.map Property.withoutFirst = r.map Property.withoutFirst := by
    intro op a b happly ha
    exact (Operation.map_withoutFirst_apply happly).trans ha
  exact h.invariant (P := fun t => t.map Property.withoutFirst = r.map Property.withoutFirst)
    hstep rfl

theorem exists_stage_of_fate {c d : Component} (h : (fate rules c).1 = some d) :
    d = c ∨ ∃ s, Stage rules c.properties s ∧ d = { c with properties := s } := by
  cases hevent : c.isEvent with
  | false =>
    rw [fate_of_other hevent] at h
    exact .inl (Option.some.inj h).symm
  | true =>
    obtain ⟨out, n, course⟩ := exists_course rules c.properties
    rw [fate_of_course hevent course] at h
    obtain ⟨s, hs, hd⟩ := Option.map_eq_some_iff.mp h
    exact .inr ⟨s, (hs ▸ course).stage, hd.symm⟩

end Rule

namespace Component

/-- A component as the reader makes it, with all within it. -/
def WellKept (c : Component) : Prop := c.Throughout fun d =>
  (∀ ch ∈ d.name.toList, ch.isLower = false) ∧ d.properties.WellKept

/-- All of a component but the first values of its own properties. -/
def withoutFirsts (c : Component) : Component :=
  { c with properties := c.properties.map Property.withoutFirst }

variable {rules : List Rule} {c d : Component}

theorem WellKept.of_fate (h : (fate rules c).1 = some d) (hc : c.WellKept) : d.WellKept := by
  rcases exists_stage_of_fate h with hd | ⟨s, stage, hd⟩
  · exact hd ▸ hc
  · rw [hd]
    exact .intro ⟨hc.here.1, stage.wellKept hc.here.2⟩ hc.within

theorem withoutFirsts_of_fate (h : (fate rules c).1 = some d) :
    d.withoutFirsts = c.withoutFirsts := by
  rcases exists_stage_of_fate h with hd | ⟨s, stage, hd⟩
  · rw [hd]
  · rw [hd, withoutFirsts, withoutFirsts, stage.map_withoutFirst]

theorem wellKept_of_mem_run {components : List Component} (h : ∀ c ∈ components, c.WellKept)
    (hd : d ∈ (run rules components).value.1) : d.WellKept := by
  rw [components_run] at hd
  obtain ⟨c, hc, hfate⟩ := List.mem_filterMap.mp hd
  exact .of_fate hfate (h c hc)

/-- What a run gives is a part of what there was, in its order, but for first values. -/
theorem withoutFirsts_run (rules : List Rule) (components : List Component) :
    ((run rules components).value.1.map withoutFirsts).Sublist (components.map withoutFirsts) := by
  rw [components_run]
  induction components with
  | nil => exact .slnil
  | cons c rest ih =>
    rw [List.filterMap_cons, List.map_cons]
    cases hfate : (fate rules c).1 with
    | none => exact ih.cons _
    | some d =>
      rw [List.map_cons, withoutFirsts_of_fate hfate]
      exact ih.cons_cons _

end Component

namespace Document

theorem isLower_eq_false_of_isName {name : String} (h : IsName name) :
    ∀ c ∈ name.toList, c.isLower = false := by
  intro c hc
  rw [← h.upper_eq, toList_upper] at hc
  obtain ⟨d, -, hd⟩ := List.mem_map.mp hc
  rw [← hd, Char.isLower_toUpper_eq_false]

theorem RawProperty.values_toProperty_ne_nil (raw : RawProperty) : raw.toProperty.values ≠ [] := by
  rw [RawProperty.toProperty]
  dsimp only
  split
  · rw [Ne, List.map_eq_nil_iff]
    exact fieldsOf_ne_nil _ _
  · exact List.cons_ne_nil _ _

theorem RawProperty.Found.wellKept {raw : RawProperty} (h : raw.Found) :
    raw.toProperty.WellKept where
  name := isLower_eq_false_of_isName h.regular.name
  params := by
    intro q hq
    obtain ⟨hname, hvalue⟩ := h.regular.params q hq
    exact ⟨isLower_eq_false_of_isName hname, hvalue⟩
  valueType := by
    intro c hc
    rw [← h.regular.valueType, lower, String.toList_ofList] at hc
    obtain ⟨d, -, hd⟩ := List.mem_map.mp hc
    rw [← hd, Char.isUpper_toLower_eq_false]
  values := raw.values_toProperty_ne_nil

theorem wellKept_of_read {text : String} {c : Component} (h : read text = .ok c) : c.WellKept := by
  have hfound := (found_of_read h).2
  refine hfound.imp fun d hd => ⟨isLower_eq_false_of_isName hd.1, ?_⟩
  intro p hp
  obtain ⟨raw, hraw, hpraw⟩ := hd.2 p hp
  exact hpraw ▸ hraw.wellKept

end Document

namespace Gateway

theorem wellKept_redact {c : Component} (h : c.WellKept) : (redact c).WellKept := by
  refine .intro ⟨h.here.1, ?_⟩ (by simp [redact])
  intro p hp
  rcases List.mem_append.mp hp with hmem | hmem
  · exact h.here.2 p (List.mem_filter.mp hmem).1
  · rw [List.mem_singleton.mp hmem]
    exact ⟨by simp, by simp, by simp [ValueType.text], by simp⟩

theorem wellKept_of_mem_contribution {source : Source} {c d : Component} (h : c.WellKept)
    (hd : d ∈ contribution source c) : d.WellKept := by
  rw [contribution] at hd
  split at hd
  · obtain ⟨event, hevent, hredact⟩ := List.mem_map.mp hd
    have hmem := (List.mem_filter.mp hevent).1
    exact hredact ▸ wellKept_redact (h.within event hmem)
  · exact h.within d hd

theorem wellKept_of_askCalendar {fetch : Fetcher} {url : String} {c : Component}
    (h : (askCalendar fetch url).value = .ok c) : c.WellKept := by
  rw [value_askCalendar] at h
  cases hfetch : fetch url with
  | error e => simp [hfetch, Except.bind] at h
  | ok text =>
    cases hread : Document.read text with
    | error e => simp [hfetch, hread, Except.bind, Except.mapError] at h
    | ok d =>
      have hd : d = c := by simpa [hfetch, hread, Except.bind, Except.mapError] using h
      exact hd ▸ Document.wellKept_of_read hread

theorem wellKept_of_gather {fetch : Fetcher} {sources : List Source}
    {found : List (Source × Component)} (h : (gather fetch sources).value = .ok found) :
    ∀ s ∈ found, s.2.WellKept := by
  induction sources generalizing found with
  | nil =>
    have hfound : [] = found := Except.ok.inj h
    simp [← hfound]
  | cons source rest ih =>
    cases hask : (askCalendar fetch source.url).value with
    | error e => simp [gather_error hask] at h
    | ok c =>
      rw [gather_ok hask] at h
      cases hrest : (gather fetch rest).value with
      | error e => simp [hrest, Except.map] at h
      | ok others =>
        have hfound : (source, c) :: others = found := by simpa [hrest, Except.map] using h
        rw [← hfound]
        intro s hs
        rcases List.mem_cons.mp hs with hfirst | hothers
        · exact hfirst ▸ wellKept_of_askCalendar hask
        · exact ih hrest s hothers

theorem wellKept_of_merge {fetch : Fetcher} {sources : List Source} {c : Component}
    (h : (merge fetch sources).value = .ok c) : c.WellKept := by
  have hmerge : (merge fetch sources).value = (gather fetch sources).value.bind combine := rfl
  rw [hmerge] at h
  cases hgather : (gather fetch sources).value with
  | error e => simp [hgather, Except.bind] at h
  | ok found =>
    have hfound := wellKept_of_gather hgather
    cases found with
    | nil => simp [hgather, Except.bind, combine] at h
    | cons first rest =>
      have hc : combine (first :: rest) = .ok c := by simpa [hgather, Except.bind] using h
      have hfirst := hfound first List.mem_cons_self
      rw [← Except.ok.inj hc]
      refine .intro hfirst.here fun d hd => ?_
      obtain ⟨s, hs, hmem⟩ := List.mem_flatMap.mp hd
      exact wellKept_of_mem_contribution (hfound s hs) hmem

end Gateway

namespace Component

open Gateway

/-- Documents are well kept when they are read, and rules, redaction and merging leave them so.
Rules change nothing of what they leave but first values. At any point of the course of an event
through rules, the first property of a name is the one that filters read, and what operations
change is that property in its place. -/
theorem wellKept_preserved :
    (∀ text c, Document.read text = .ok c → c.WellKept) ∧
      (∀ rules components, (∀ c ∈ components, c.WellKept) →
        ∀ d ∈ (run rules components).value.1, d.WellKept) ∧
      (∀ c, c.WellKept → (redact c).WellKept) ∧
      (∀ fetch sources c, (merge fetch sources).value = .ok c → c.WellKept) ∧
      (∀ rules c d, (fate rules c).1 = some d → d.withoutFirsts = c.withoutFirsts) ∧
      (∀ rules components, ((run rules components).value.1.map withoutFirsts).Sublist
        (components.map withoutFirsts)) ∧
      ∀ rules (c : Component) r, c.WellKept → Stage rules c.properties r → ∀ name,
        r.named? name = r.lineOf? name ∧
          ∀ p, r.lineOf? name = some p → ∃ before after, r = before ++ p :: after ∧
            ∀ f, r.modifyNamed name f = before ++ f p :: after := by
  refine ⟨fun text c => Document.wellKept_of_read, ?_, fun c => wellKept_redact, ?_,
    fun rules c d => withoutFirsts_of_fate, withoutFirsts_run, ?_⟩
  · intro rules components h d hd
    exact wellKept_of_mem_run h hd
  · intro fetch sources c h
    exact wellKept_of_merge h
  · intro rules c r hc stage name
    have hkept : r.WellKept := stage.wellKept hc.here.2
    have hsame := Record.lineOf?_eq_named? hkept name
    refine ⟨hsame.symm, fun p hp => ?_⟩
    rw [hsame] at hp
    exact Record.exists_modifyNamed_eq hp

/-- A calendar of one rehearsal, in lower case, with a title for each of two readers. -/
def choirText : String :=
  "BEGIN:VCALENDAR\r\nbegin:vevent\r\n" ++
  "SUMMARY:Rehearsal\r\nSUMMARY:Probe\r\nlocation;Language=en;value=TEXT:Room 2\r\n" ++
  "CATEGORIES:Music,Choir\r\nend:vevent\r\nEND:VCALENDAR\r\n"

def rehearsal : Component := .event [
  { name := "SUMMARY", values := ["Rehearsal"] }, { name := "SUMMARY", values := ["Probe"] },
  { name := "LOCATION", params := [("LANGUAGE", "en")], values := ["Room 2"] },
  { name := "CATEGORIES", values := ["Music", "Choir"] }]

def choir : Component := { name := "VCALENDAR", components := [rehearsal] }

theorem read_choirText : Document.read choirText = .ok choir := by decide +kernel

def moved : Record := rehearsal.properties.modifyNamed "LOCATION" fun p => p.withValue "Hall"

def busyChoir : Component := { choir with components := [redact rehearsal] }

def choirSources : List Source := [⟨"https://example.com/choir.ics", true⟩]

theorem wellKept_preserved_choir :
    Document.read choirText = .ok choir ∧ choir.WellKept ∧
    (∀ d ∈ (run [moveRehearsals] choir.components).value.1, d.WellKept) ∧
    (redact rehearsal).WellKept ∧
    (merge (fun _ => .ok choirText) choirSources).value = .ok busyChoir ∧ busyChoir.WellKept ∧
    Stage [moveRehearsals] rehearsal.properties moved ∧
    moved.named? "Location" = moved.lineOf? "Location" := by
  obtain ⟨hread, hrun, hredact, hmerge, -, -, hlookup⟩ := wellKept_preserved
  have hchoir := hread choirText choir read_choirText
  have hrehearsal := hchoir.within rehearsal (by simp [choir])
  have hmerged : (merge (fun _ => .ok choirText) choirSources).value = .ok busyChoir := by
    decide +kernel
  have hfilter : (moveRehearsals.filter.holds rehearsal.properties).value = true := by
    decide +kernel
  have stage : Stage [moveRehearsals] rehearsal.properties moved :=
    .within hfilter (.later rfl (.here [] moved))
  refine ⟨read_choirText, hchoir, hrun [moveRehearsals] choir.components hchoir.within,
    hredact rehearsal hrehearsal, hmerged, hmerge _ choirSources busyChoir hmerged, stage, ?_⟩
  exact (hlookup [moveRehearsals] rehearsal moved hrehearsal stage "Location").1

end Component

end CalendarRelay
