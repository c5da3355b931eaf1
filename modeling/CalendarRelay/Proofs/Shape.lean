import CalendarRelay.Proofs.Reading
import CalendarRelay.Proofs.Escape

namespace CalendarRelay

open Text Document Folding

namespace Folding

theorem breakFree_joinWith {pieces : List (List Char)} (h : ∀ piece ∈ pieces, BreakFree piece) :
    BreakFree (joinWith ',' pieces) := by
  induction pieces with
  | nil => exact .nil
  | cons piece pieces ih =>
    have hpiece := h piece (by simp)
    cases pieces with
    | nil => exact hpiece
    | cons next pieces =>
      have hrest := ih fun q hq => h q (by simp [hq])
      rw [joinWith]
      · refine List.isChain_append.mpr ⟨hpiece, List.isChain_cons.mpr ⟨?_, hrest⟩, ?_⟩
        · simp
        · simp
      · simp

end Folding

namespace Property

/-- A value of a parameter that its content line can tell. One that holds quotes is a list of quoted
texts, or else it neither begins with a quote nor gets any when it is written; and joining takes
nothing out of it. -/
def SoundValue (v : List Char) : Prop :=
  '"' ∈ v → FoldFree v ∧ (isQuoted v = true ∨ v.head? ≠ some '"' ∧ ',' ∉ v)

instance (v : List Char) : Decidable (SoundValue v) := inferInstanceAs (Decidable (_ → _))

/-- A property that its content line can tell. Its name opens and closes no component, its type is
written without quotes, and what is not written as text holds no line end. -/
structure Sound (p : Property) : Prop where
  ne_begin : p.name ≠ "BEGIN"
  ne_end : p.name ≠ "END"
  params : ∀ q ∈ p.params, SoundValue q.2.toList
  valueType : '"' ∉ p.valueType.toList ∧ ';' ∉ p.valueType.toList ∧ ':' ∉ p.valueType.toList
  values : p.valueType ≠ ValueType.text → ∀ v ∈ p.values, BreakFree v.toList

instance (p : Property) : Decidable p.Sound :=
  decidable_of_iff
    (p.name ≠ "BEGIN" ∧ p.name ≠ "END" ∧
      (∀ q ∈ p.params, SoundValue q.2.toList) ∧
      ('"' ∉ p.valueType.toList ∧ ';' ∉ p.valueType.toList ∧ ':' ∉ p.valueType.toList) ∧
      (p.valueType ≠ ValueType.text → ∀ v ∈ p.values, BreakFree v.toList))
    ⟨fun ⟨hb, he, hp, ht, hv⟩ => ⟨hb, he, hp, ht, hv⟩,
      fun ⟨hb, he, hp, ht, hv⟩ => ⟨hb, he, hp, ht, hv⟩⟩

theorem writtenParam_eq_self {v : List Char} (h : isQuoted v = true ∨
    ',' ∉ v ∧ ∀ c ∈ v, isSeparator c = false) : writtenParam v = v := by
  rw [writtenParam]
  rcases h with h | ⟨hcomma, hsep⟩
  · simp [h]
  · have hany : (v.any fun c => c == ':' || c == ';' || c == ',') = false := by
      rw [List.any_eq_false]
      intro c hc
      have hc' := hsep c hc
      have hne : c ≠ ',' := fun he => hcomma (he ▸ hc)
      simp only [isSeparator, Bool.or_eq_false_iff] at hc'
      simp [hc', hne]
    simp [hany]

/-- A value that the reader has found is read again from what is written for it. -/
theorem legibleParam_of_found {key value : String} (hkey : IsName key)
    (hvalue : FoundValue value.toList) (hsound : SoundValue value.toList) :
    LegibleParam key value := by
  by_cases hquote : '"' ∈ value.toList
  · obtain ⟨hfree, hform⟩ := hsound hquote
    cases hquoted : isQuoted value.toList with
    | true =>
      exact legibleParam_of_foldFree hkey.chars hfree (writtenParam_eq_self (.inl hquoted))
        (hvalue.quoted hquoted)
    | false =>
      have hsep := (hvalue.bare hquote).resolve_left (by simp [hquoted])
      obtain ⟨hhead, hcomma⟩ := hform.resolve_left (by simp [hquoted])
      exact legibleParam_of_foldFree hkey.chars hfree (writtenParam_eq_self (.inr ⟨hcomma, hsep⟩))
        (standsFor_bare hhead hsep)
  · exact legibleParam_of_not_mem hkey.chars hquote

theorem breakFree_valueText {p : Property} (h : p.Sound) : BreakFree p.valueText := by
  refine breakFree_joinWith fun piece hpiece => ?_
  obtain ⟨v, hv, rfl⟩ := List.mem_map.mp hpiece
  split
  · refine breakFree_of_not_mem fun hn => ?_
    simpa [isLineEnd] using Escape.isLineEnd_of_mem_escape hn
  · rename_i ht
    exact h.values ht v hv

theorem legible_of_found {raw : RawProperty} (hraw : raw.Found) (h : raw.toProperty.Sound) :
    raw.toProperty.Legible where
  name := hraw.regular.name
  ne_begin := h.ne_begin
  ne_end := h.ne_end
  params := by
    intro q hq
    exact legibleParam_of_found (hraw.regular.params q hq).1 (hraw.foundValue hq) (h.params q hq)
  type_bare := by
    intro c hc
    rw [toList_upper] at hc
    obtain ⟨d, hd, rfl⟩ := List.mem_map.mp hc
    obtain ⟨hquote, hsemicolon, hcolon⟩ := h.valueType
    have hne {a : Char} (ha : a.isAlpha = false) (hmem : a ∉ raw.toProperty.valueType.toList) :
        d.toUpper ≠ a := by
      intro he
      rw [eq_of_toUpper ha he] at hd
      exact hmem hd
    have hsep : d.toUpper ≠ ';' ∧ d.toUpper ≠ ':' :=
      ⟨hne (by decide) hsemicolon, hne (by decide) hcolon⟩
    exact ⟨hne (by decide) hquote, by simp [isSeparator, hsep]⟩
  breakFree := breakFree_valueText h

/-- What the shape of a component keeps of a property: its name and the keys of its parameters. -/
def outline (p : Property) : String × List String := (p.name, p.params.map Prod.fst)

/-- The keys that are read depend on the keys that are written alone. -/
theorem keys_toProperty (raw : RawProperty) : raw.toProperty.params.map Prod.fst =
    ((raw.params.map Prod.fst).filter (!isTypeKey ·)).map fun key => upper (String.ofList key) := by
  rw [RawProperty.toProperty, List.filter_map]
  simp only [List.map_map, Function.comp_def]

theorem keys_writtenParams {p : Property} (h : p.Regular) :
    ((p.writtenParams.map Prod.fst).filter (!isTypeKey ·)).map
      (fun key => upper (String.ofList key)) = p.params.map Prod.fst := by
  have htype : ((typeParams p.name p.valueType).map Prod.fst).filter (!isTypeKey ·) = [] := by
    rw [List.filter_eq_nil_iff]
    intro key hkey
    obtain ⟨q, hq, rfl⟩ := List.mem_map.mp hkey
    simp [isTypeKey_of_mem_typeParams hq]
  have hown : (p.params.map fun q => q.1.toList).filter (!isTypeKey ·) =
      p.params.map fun q => q.1.toList := by
    rw [List.filter_eq_self]
    intro key hkey
    obtain ⟨q, hq, rfl⟩ := List.mem_map.mp hkey
    rw [h.isTypeKey_eq_false hq, Bool.not_false]
  rw [writtenParams, List.map_append, List.filter_append, htype, List.append_nil, List.map_map]
  simp only [Function.comp_def]
  rw [hown, List.map_map]
  refine List.map_congr_left fun q hq => ?_
  simp [(h.params q hq).1.upper_eq]

/-- Reading back keeps name and keys. -/
theorem outline_reread {raw : RawProperty} (hraw : raw.Found) (h : raw.toProperty.Sound) :
    raw.toProperty.reread.outline = raw.toProperty.outline := by
  have hlegible := legible_of_found hraw h
  have hname : raw.toProperty.reread.name = raw.toProperty.name := by
    change upper (String.ofList raw.toProperty.found.name) = _
    rw [hlegible.name_found, String.ofList_toList, hlegible.name.upper_eq]
  have hkeys : raw.toProperty.reread.params.map Prod.fst = raw.toProperty.params.map Prod.fst := by
    rw [reread, keys_toProperty, hlegible.keys_found]
    exact keys_writtenParams hraw.regular
  rw [outline, outline, hname, hkeys]

end Property

namespace Component

/-- Components of one shape: the same names of components, properties and parameters in the same
places. -/
inductive SameShape : Component → Component → Prop
  | intro {c d : Component} (name : c.name = d.name)
    (properties : c.properties.map Property.outline = d.properties.map Property.outline)
    (components : List.Forall₂ SameShape c.components d.components) : SameShape c d

/-- A component keeps its shape when each property within it keeps its outline. -/
theorem sameShape_mapProperties {f : Property → Property} {c : Component}
    (h : c.Throughout fun d => ∀ p ∈ d.properties, (f p).outline = p.outline) :
    SameShape (c.mapProperties f) c := by
  induction c using tree_induction with
  | step name properties components ih =>
    rw [mapProperties, mapPropertiesAll_eq_map]
    refine .intro rfl ?_ ?_
    · rw [List.map_map]
      exact List.map_congr_left h.here
    · rw [List.forall₂_map_left_iff, List.forall₂_same]
      exact fun d hd => ih d hd (h.within d hd)

/-- What the reader finds is read from its written form when its content lines can tell it. -/
theorem legible_of_found {c : Component} (hc : FoundComponent c)
    (h : c.Throughout fun d => ∀ p ∈ d.properties, p.Sound) : c.Legible := by
  refine (hc.and h).imp fun d hd => ⟨hd.1.1, fun p hp => ?_⟩
  obtain ⟨raw, hraw, rfl⟩ := hd.1.2 p hp
  exact Property.legible_of_found hraw (hd.2 _ hp)

theorem sameShape_reread {c : Component} (hc : FoundComponent c)
    (h : c.Throughout fun d => ∀ p ∈ d.properties, p.Sound) : SameShape c.reread c := by
  refine sameShape_mapProperties ((hc.and h).imp fun d hd p hp => ?_)
  obtain ⟨raw, hraw, rfl⟩ := hd.1.2 p hp
  exact Property.outline_reread hraw (hd.2 _ hp)

end Component

namespace Document

/-- A calendar that was read from any text, all of whose properties their content lines can tell,
is written as a document that is read again as a calendar of the same shape. No value becomes a
content line, a property or a component of its own. -/
theorem exists_sameShape_of_read {text : String} {c : Component} (hread : read text = .ok c)
    (h : c.Throughout fun d => ∀ p ∈ d.properties, p.Sound) :
    ∃ c', read c.toText = .ok c' ∧ c'.SameShape c := by
  obtain ⟨hname, hfound⟩ := found_of_read hread
  exact ⟨c.reread, read_toText (Component.legible_of_found hfound h) hname,
    Component.sameShape_reread hfound h⟩

/-- A calendar with an event in lower case, a list of quoted texts and a quoted name. -/
def invitationText : String :=
  "BEGIN:VCALENDAR\r\nbegin:vevent\r\n" ++
  "attendee;member=\"mailto:a@b.c\",\"mailto:d@e.f\";cn=\"Doe: John\":mailto:g@h.i\r\n" ++
  "end:vevent\r\nEND:VCALENDAR\r\n"

def invitation : Component where
  name := "VCALENDAR"
  components := [
    { name := "VEVENT"
      properties := [
        { name := "ATTENDEE"
          params := [("MEMBER", "\"mailto:a@b.c\",\"mailto:d@e.f\""), ("CN", "Doe: John")]
          valueType := "unknown", values := ["mailto:g@h.i"] }] }]

theorem read_invitationText : read invitationText = .ok invitation := by decide +kernel

theorem sound_invitation : invitation.Throughout fun d => ∀ p ∈ d.properties, p.Sound := by
  refine .intro (by simp [invitation]) ?_
  simp only [invitation, List.forall_mem_singleton]
  exact .intro (by decide +kernel) (by simp)

theorem exists_sameShape_invitation : read invitationText = .ok invitation ∧
    (invitation.Throughout fun d => ∀ p ∈ d.properties, p.Sound) ∧
    ∃ c', read invitation.toText = .ok c' ∧ c'.SameShape invitation :=
  ⟨read_invitationText, sound_invitation,
    exists_sameShape_of_read read_invitationText sound_invitation⟩

/-- A calendar with a parameter that has two values, of which the second one is quoted. -/
def teamsText : String :=
  "BEGIN:VCALENDAR\r\nATTENDEE;X-TEAMS=sales,\"north: office\":mailto:john@example.com\r\n" ++
  "END:VCALENDAR\r\n"

/-- The calendar that is read: the value of the parameter ends within the quotes. -/
def teams : Component where
  name := "VCALENDAR"
  properties := [
    { name := "ATTENDEE", params := [("X-TEAMS", "sales,\"north")], valueType := "cal-address"
      values := [" office\":mailto:john@example.com"] }]

/-- What is written for a parameter that begins without a quote and holds one later is not read
again. -/
theorem not_forall_exists_sameShape :
    ¬ ∀ (text : String) (c : Component), read text = .ok c →
      ∃ c', read c.toText = .ok c' ∧ c'.SameShape c := by
  intro h
  obtain ⟨c', hread, -⟩ := h teamsText teams (by decide +kernel)
  have hfault : read teams.toText = .error .malformed := by decide +kernel
  simp [hfault] at hread

end Document

end CalendarRelay
