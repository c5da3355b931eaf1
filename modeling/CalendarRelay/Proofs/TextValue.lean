import CalendarRelay.Proofs.Canonical

namespace CalendarRelay

open Text Document Folding

namespace ValueType

/-- A name of text properties in capitals and hyphens begins with a letter. -/
theorem isCapitalWord_of_ofName {name : String} (h : ofName name = text)
    (hchars : ∀ c ∈ name.toList, isCapital c = true) : isCapitalWord name.toList = true := by
  unfold ofName at h
  split at h
  · rename_i hmem
    refine (?_ : ∀ word ∈ _, isCapitalWord word.toList = true) name (List.contains_iff_mem.mp hmem)
    decide
  · split at h
    · rename_i hprefix
      obtain ⟨rest, hrest⟩ := List.isPrefixOf_iff_prefix.mp hprefix
      have hname : name.toList = 'X' :: '-' :: rest := hrest.symm
      rw [hname] at hchars ⊢
      simp only [isCapitalWord, Bool.and_eq_true, List.all_eq_true]
      exact ⟨by decide, fun c hc => hchars c (List.mem_cons_of_mem _ hc)⟩
    · -- the other names have other types
      exfalso
      revert h
      repeat' split
      all_goals decide

end ValueType

namespace Property

/-- A property that holds one text. -/
def ofText (name v : String) : Property := { name, valueType := ValueType.text, values := [v] }

theorem leavesType_ofText {name : String} (h : ValueType.ofName name = ValueType.text)
    (v : String) : (ofText name v).LeavesType := .inl h.symm

end Property

/-- A name of properties that hold one text. -/
structure NamesText (name : String) : Prop where
  word : isCapitalWord name.toList = true
  ofName_eq : ValueType.ofName name = ValueType.text
  isList_eq : ValueType.isList name = false

namespace NamesText

open Property

variable {name : String} (h : NamesText name) (v : String)
include h

/-- The written form of a text ends no line, whatever the text. -/
theorem inForm : (ofText name v).InForm where
  name_word := h.word
  ne_begin := by
    rintro rfl
    exact absurd h.ofName_eq (by decide)
  ne_end := by
    rintro rfl
    exact absurd h.ofName_eq (by decide)
  params := by simp [ofText]
  type_word := (by decide : isSmallWord ValueType.text.toList = true)
  oneLine := feed_not_mem_valueText_of_text rfl

/-- A text without carriage returns is read from its property as it was, backslashes and all. -/
theorem reread_ofText {v : String} (hv : '\r' ∉ v.toList) :
    (ofText name v).reread = ofText name v := by
  have hregular := (h.inForm v).regular
  have htype : (ofText name v).raw.valueType = ValueType.text := by
    refine hregular.valueType_raw.trans ?_
    rw [if_pos (leavesType_ofText h.ofName_eq v)]
    exact h.ofName_eq
  have hescaped : (ofText name v).raw.isEscaped = true :=
    hregular.isEscaped_raw_of_text h.isList_eq h.word h.ofName_eq rfl
  have hvalues : (ofText name v).raw.toProperty.values = [v] := by
    refine values_toProperty_raw_of_single h.isList_eq rfl ?_
    have hwritten : (ofText name v).writtenValue v = Escape.escape v.toList := rfl
    rw [hescaped, if_pos rfl, hwritten, Escape.unescape_escape hv]
  exact (h.inForm v).reread_eq rfl rfl htype hvalues

end NamesText

/-- What stands around a property of an event in a calendar. -/
structure Surroundings where
  header : Record := []
  earlier : List Component := []
  before : Record := []
  after : Record := []
  parts : List Component := []
  later : List Component := []

namespace Surroundings

/-- The event that the property stands in. -/
def event (s : Surroundings) (p : Property) : Component where
  name := "VEVENT"
  properties := s.before ++ p :: s.after
  components := s.parts

/-- The calendar with the property in its place. -/
def place (s : Surroundings) (p : Property) : Component where
  name := "VCALENDAR"
  properties := s.header
  components := s.earlier ++ s.event p :: s.later

/-- Surroundings that are read as properties and components of the same form. -/
structure Legible (s : Surroundings) : Prop where
  lines : ∀ p ∈ s.header ++ s.before ++ s.after, p.Legible
  components : ∀ c ∈ s.earlier ++ s.parts ++ s.later, c.Legible

/-- The surroundings as they are read. -/
def reread (s : Surroundings) : Surroundings where
  header := s.header.map Property.reread
  earlier := s.earlier.map Component.reread
  before := s.before.map Property.reread
  after := s.after.map Property.reread
  parts := s.parts.map Component.reread
  later := s.later.map Component.reread

theorem legible_empty : ({} : Surroundings).Legible := ⟨by simp, by simp⟩

theorem Legible.place {s : Surroundings} (h : s.Legible) {p : Property} (hp : p.Legible) :
    (s.place p).Legible := by
  have hlines := h.lines
  have hcomponents := h.components
  simp only [List.mem_append, or_imp, forall_and] at hlines hcomponents
  obtain ⟨⟨hheader, hbefore⟩, hafter⟩ := hlines
  obtain ⟨⟨hearlier, hparts⟩, hlater⟩ := hcomponents
  have hname : IsName "VEVENT" := isName_of_isCapitalWord (by decide)
  have hroot : IsName "VCALENDAR" := isName_of_isCapitalWord (by decide)
  have hevent : (s.event p).Legible := by
    refine .intro ⟨hname, ?_⟩ hparts
    simpa [event, or_imp, forall_and] using ⟨hbefore, hp, hafter⟩
  refine .intro ⟨hroot, hheader⟩ ?_
  simpa [Surroundings.place, or_imp, forall_and] using ⟨hearlier, hevent, hlater⟩

theorem reread_event (s : Surroundings) (p : Property) :
    (s.event p).reread = s.reread.event p.reread := by
  rw [event, Component.reread_mk]
  simp [event, reread]

/-- A calendar is read part by part, so that a property is read the same in any surroundings. -/
theorem reread_place (s : Surroundings) (p : Property) :
    (s.place p).reread = s.reread.place p.reread := by
  rw [place, Component.reread_mk]
  simp [place, reread, reread_event]

end Surroundings

namespace Document

/-- A text without carriage returns comes back from the document of a calendar as it was, with its
type and in its place: from a calendar with nothing else in it, and from any other one that can be
read. -/
theorem read_toText_place_ofText {name v : String} (hchars : ∀ c ∈ name.toList, isCapital c = true)
    (htext : ValueType.ofName name = ValueType.text) (hcategories : name ≠ "CATEGORIES")
    (hresources : name ≠ "RESOURCES") (hv : '\r' ∉ v.toList) :
    read (({} : Surroundings).place (.ofText name v)).toText =
        .ok (({} : Surroundings).place (.ofText name v)) ∧
      ∀ s : Surroundings, s.Legible →
        read (s.place (.ofText name v)).toText = .ok (s.reread.place (.ofText name v)) := by
  have hname : NamesText name :=
    ⟨ValueType.isCapitalWord_of_ofName htext hchars, htext,
      by simp [ValueType.isList, hcategories, hresources]⟩
  have hplace : ∀ s : Surroundings, s.Legible →
      read (s.place (.ofText name v)).toText = .ok (s.reread.place (.ofText name v)) := by
    intro s hs
    rw [read_toText (hs.place (hname.inForm v).legible) rfl, s.reread_place, hname.reread_ofText hv]
  exact ⟨hplace {} Surroundings.legible_empty, hplace⟩

/-- An event of a calendar, with what else it holds. -/
def folderEvent : Surroundings where
  header := [{ name := "PRODID", values := ["-//relay//EN"] }]
  before := [{ name := "UID", values := ["1@example.com"] }]
  after := [{ name := "SUMMARY", values := ["Backup, weekly; see notes"] }]
  parts := [
    { name := "VALARM"
      properties := [{ name := "TRIGGER", valueType := "duration", values := ["-PT15M"] }] }]

theorem legible_folderEvent : folderEvent.Legible where
  lines := by
    have hcanonical : ∀ p ∈ folderEvent.header ++ folderEvent.before ++ folderEvent.after,
        p.Canonical := by decide +kernel
    exact fun p hp => (hcanonical p hp).inForm.legible
  components := by
    simp only [folderEvent, List.nil_append, List.append_nil, List.forall_mem_singleton]
    exact Component.Canonical.legible (.intro ⟨by decide, by decide +kernel⟩ (by simp))

/-- A path with backslashes before letters, separators and each other, and at the end. -/
def folder : String := "C:\\new\\Notes\\; \\\\host\\,a\n\\"

theorem read_toText_place_folder :
    (∀ c ∈ "X-FOLDER".toList, isCapital c = true) ∧ ValueType.ofName "X-FOLDER" = ValueType.text ∧
      '\r' ∉ folder.toList ∧ folderEvent.Legible ∧
      read (folderEvent.place (.ofText "X-FOLDER" folder)).toText =
        .ok (folderEvent.reread.place (.ofText "X-FOLDER" folder)) :=
  have hchars : ∀ c ∈ "X-FOLDER".toList, isCapital c = true := List.all_eq_true.mp (by decide)
  have htext : ValueType.ofName "X-FOLDER" = ValueType.text := by decide
  have hv : '\r' ∉ folder.toList := by decide +kernel
  ⟨hchars, htext, hv, legible_folderEvent,
    (read_toText_place_ofText hchars htext (by decide) (by decide) hv).2 folderEvent
      legible_folderEvent⟩

end Document

end CalendarRelay
