import CalendarRelay.Proofs.Effect

namespace CalendarRelay

open Text

theorem Property.mapValue_eq_modifyHead (f : String → String) (p : Property) :
    p.mapValue f = { p with values := p.values.modifyHead f } := by
  obtain ⟨name, params, valueType, values⟩ := p
  cases values <;> rfl

namespace Record

/-- What a record becomes when `f` changes the values of its first property of the name. A record
without such a property stays as it is. -/
inductive ChangedFirst (name : String) (f : List String → List String) : Record → Record → Prop
  | absent {r : Record} (hr : ∀ p ∈ r, p.isNamed name = false) : ChangedFirst name f r r
  | changed {before after : Record} {p : Property} (hbefore : ∀ q ∈ before, q.isNamed name = false)
    (hp : p.isNamed name = true) : ChangedFirst name f (before ++ p :: after)
      (before ++ { p with values := f p.values } :: after)

variable {name : String} {f : List String → List String}

theorem changedFirst_modifyNamed {g : Property → Property}
    (hg : ∀ p, g p = { p with values := f p.values }) (r : Record) :
    ChangedFirst name f r (r.modifyNamed name g) := by
  cases h : r.named? name with
  | none =>
    have hunnamed : ∀ p ∈ r, p.isNamed name = false := by simpa [named?] using h
    rw [modifyNamed_of_named?_eq_none h]
    exact .absent hunnamed
  | some p =>
    obtain ⟨hp, before, after, hr, hbefore⟩ := List.find?_eq_some_iff_append.mp h
    have hunnamed : ∀ q ∈ before, q.isNamed name = false := by simpa using hbefore
    rw [hr, modifyNamed_append hunnamed hp, hg]
    exact .changed hunnamed hp

/-- Changes of the property of one name, one after the other, are one change. -/
theorem modifyNamed_modifyNamed {g h : Property → Property} (hg : ∀ p, (g p).name = p.name)
    (r : Record) :
    (r.modifyNamed name g).modifyNamed name h = r.modifyNamed name fun p => h (g p) := by
  induction r with
  | nil => rfl
  | cons q r ih =>
    have hname : (g q).isNamed name = q.isNamed name := by
      rw [Property.isNamed, hg, Property.isNamed]
    cases hq : q.isNamed name with
    | true => simp [modifyNamed, hname, hq]
    | false => simp [modifyNamed, hq, ih]

/-- What stands before the first property of a name makes no difference to its value. -/
theorem valueOf?_append {before : Record} (h : ∀ q ∈ before, q.isNamed name = false)
    (rest : Record) : valueOf? (before ++ rest) name = valueOf? rest name := by
  have hnone : before.find? (fun p => p.isNamed name && p.value?.isSome) = none := by
    rw [List.find?_eq_none]
    intro q hq
    simp [h q hq]
  rw [valueOf?, valueOf?, lineOf?, lineOf?, List.find?_append, hnone, Option.none_or]

theorem valueOf?_cons {p : Property} {v : String} {vs : List String} (hp : p.isNamed name = true)
    (hv : p.values = v :: vs) (rest : Record) : valueOf? (p :: rest) name = some v := by
  have hvalue : p.value? = some v := by rw [Property.value?, hv, List.head?_cons]
  rw [valueOf?, lineOf?, List.find?_cons, hp, hvalue]
  exact hvalue

theorem valueOf?_eq_none {r : Record} (h : ∀ p ∈ r, p.isNamed name = false) :
    r.valueOf? name = none := by
  have happend := valueOf?_append h []
  rwa [List.append_nil] at happend

namespace ChangedFirst

variable {r s : Record}

/-- A value that has been set is the one that is read. -/
theorem valueOf?_of_set {value : String} (h : ChangedFirst name (value :: ·.tail) r s)
    (hr : ∃ p ∈ r, p.isNamed name = true) : s.valueOf? name = some value := by
  cases h with
  | absent hnone =>
    obtain ⟨p, hp, hnamed⟩ := hr
    rw [hnone p hp] at hnamed
    contradiction
  | @changed before after p hbefore hp =>
    have hnamed : { p with values := value :: p.values.tail }.isNamed name = true := hp
    rw [valueOf?_append hbefore]
    exact valueOf?_cons hnamed rfl after

/-- Where every property has a value, a change of the first value changes the one that is read. -/
theorem valueOf?_of_modify {g : String → String} (h : ChangedFirst name (List.modifyHead g) r s)
    (hr : ∀ p ∈ r, p.values ≠ []) : s.valueOf? name = (r.valueOf? name).map g := by
  cases h with
  | absent hnone => rw [valueOf?_eq_none hnone, Option.map_none]
  | @changed before after p hbefore hp =>
    have hne : p.values ≠ [] := hr p (by simp)
    obtain ⟨v, vs, hv⟩ := List.exists_cons_of_ne_nil hne
    have hnamed : { p with values := p.values.modifyHead g }.isNamed name = true := hp
    have hmodified : p.values.modifyHead g = g v :: vs := by rw [hv, List.modifyHead_cons]
    rw [valueOf?_append hbefore, valueOf?_append hbefore, valueOf?_cons hp hv, Option.map_some]
    exact valueOf?_cons hnamed hmodified after

end ChangedFirst

end Record

namespace Rule

/-- Two events of which filters read the same in every field but the one of the name. -/
def SameBeyond (name : String) (r s : Record) : Prop :=
  ∀ other, sameName name other = false → s.valueOf? other = r.valueOf? other ∧
    (Operand.field other).resolve? s = (Operand.field other).resolve? r

theorem sameBeyond_modifyNamed {name : String} {g : Property → Property}
    (hg : ∀ p, (g p).name = p.name) (r : Record) : SameBeyond name r (r.modifyNamed name g) := by
  intro other hother
  have hline := Record.lineOf?_modifyNamed hother hg r
  exact ⟨by rw [Record.valueOf?, hline, Record.valueOf?],
    by rw [Operand.resolve?, hline, Operand.resolve?]⟩

namespace Operation

open Record

/-- An edit changes the first value of the first property of its name and nothing else. What it
sets is read back as long as the event has the property, and setting it once more changes
nothing. What it makes of a match is read back where every property has a value. -/
theorem edits_read_back (r : Record) (key : String) :
    (∀ value, ∃ s, apply r (edit key value) = some s ∧
      ChangedFirst key (value :: ·.tail) r s ∧
      ((∃ p ∈ r, p.isNamed key = true) → s.valueOf? key = some value) ∧
      apply s (edit key value) = some s ∧ SameBeyond key r s) ∧
    ∀ pattern replacement, ∃ s, apply r (editRegex key pattern replacement) = some s ∧
      ChangedFirst key (List.modifyHead (replacement.replaceFirst pattern)) r s ∧
      ((∀ p ∈ r, p.values ≠ []) →
        s.valueOf? key = (r.valueOf? key).map (replacement.replaceFirst pattern)) ∧
      SameBeyond key r s := by
  constructor
  · intro value
    have hname : ∀ p : Property, (p.withValue value).name = p.name := fun p =>
      p.name_withValue value
    have hchanged : ChangedFirst key (value :: ·.tail) r (r.modifyNamed key (·.withValue value)) :=
      changedFirst_modifyNamed (fun p => rfl) r
    refine ⟨_, rfl, hchanged, hchanged.valueOf?_of_set, ?_, sameBeyond_modifyNamed hname r⟩
    -- the second value takes the place of the first, which is the same
    rw [apply, modifyNamed_modifyNamed hname]
    rfl
  · intro pattern replacement
    have hname : ∀ p : Property, (p.mapValue (replacement.replaceFirst pattern)).name = p.name :=
      fun p => p.name_mapValue _
    have hchanged : ChangedFirst key (List.modifyHead (replacement.replaceFirst pattern)) r
        (r.modifyNamed key (·.mapValue (replacement.replaceFirst pattern))) :=
      changedFirst_modifyNamed (fun p => p.mapValue_eq_modifyHead _) r
    exact ⟨_, rfl, hchanged, hchanged.valueOf?_of_modify, sameBeyond_modifyNamed hname r⟩

/-- A lesson with three titles, of which the first was never filled in. -/
def lesson : Record := [{ name := "Summary" },
  { name := "SUMMARY", values := ["Algebra", "Groups"] },
  { name := "summary", values := ["Analysis"] }, { name := "LOCATION", values := ["Room 12"] }]

/-- The lesson with the first title filled in. -/
def titledLesson : Record := { name := "Summary", values := ["Maths"] } :: lesson.tail

theorem edits_read_back_lesson :
    ((∃ p ∈ lesson, p.isNamed "SUMMARY" = true) ∧
      apply lesson (edit "SUMMARY" "Maths") = some titledLesson ∧
      titledLesson.valueOf? "SUMMARY" = some "Maths" ∧
      titledLesson.valueOf? "location" = lesson.valueOf? "location" ∧
      apply titledLesson (edit "SUMMARY" "Maths") = some titledLesson) ∧
    (∀ p ∈ titledLesson, p.values ≠ []) ∧
    ∃ digits s, Pattern.ofText? "[0-9]+" = some digits ∧
      apply titledLesson (editRegex "location" digits (.ofTemplate digits "$&b")) = some s ∧
      s.valueOf? "location" = some "Room 12b" ∧ s.valueOf? "SUMMARY" = some "Maths" := by
  have hnamed : ∃ p ∈ lesson, p.isNamed "SUMMARY" = true := by decide
  have hvalues : ∀ p ∈ titledLesson, p.values ≠ [] := by decide
  obtain ⟨s, hs, -, hvalue, hagain, hbeyond⟩ := (edits_read_back lesson "SUMMARY").1 "Maths"
  have htitled : titledLesson = s := Option.some.inj hs
  subst htitled
  refine ⟨⟨hnamed, hs, hvalue hnamed, (hbeyond "location" (by decide)).1, hagain⟩, hvalues, ?_⟩
  have hread : ((Pattern.ofText? "[0-9]+").map fun p =>
      Replacement.replaceFirst (.ofTemplate p "$&b") p "Room 12") = some "Room 12b" := by cbv
  obtain ⟨digits, hdigits, hreplaced⟩ := Option.map_eq_some_iff.mp hread
  obtain ⟨s, hs, -, hvalue, hbeyond⟩ :=
    (edits_read_back titledLesson "location").2 digits (.ofTemplate digits "$&b")
  have hlocation := hvalue hvalues
  have hbefore : titledLesson.valueOf? "location" = some "Room 12" := by decide
  rw [hbefore, Option.map_some, hreplaced] at hlocation
  exact ⟨digits, s, hdigits, hs, hlocation, (hbeyond "SUMMARY" (by decide)).1⟩

end Operation

end Rule

end CalendarRelay
