import CalendarRelay.Proofs.TextValue

namespace CalendarRelay

open Text Document Folding

namespace Text

/-- Putting at least one element in the place of each leaves a list as it is only if it is done so
to each of them. -/
theorem flatMap_eq_self_iff {α : Type} {f : α → List α} (hf : ∀ a, f a ≠ []) {l : List α} :
    l.flatMap f = l ↔ ∀ a ∈ l, f a = [a] := by
  have hlength (l : List α) : l.length ≤ (l.flatMap f).length := by
    induction l with
    | nil => simp
    | cons a l ih =>
      have hpos := List.length_pos_iff.mpr (hf a)
      rw [List.flatMap_cons, List.length_append, List.length_cons]
      omega
  constructor
  · intro h
    induction l with
    | nil => simp
    | cons a l ih =>
      obtain ⟨b, rest, hb⟩ := List.exists_cons_of_ne_nil (hf a)
      rw [List.flatMap_cons, hb, List.cons_append, List.cons.injEq] at h
      obtain ⟨rfl, htail⟩ := h
      -- all of `l` comes of `l` itself, so that nothing more comes of the first element
      have hnone : rest = [] := by
        have hle := hlength l
        have hsum := congrArg List.length htail
        rw [List.length_append] at hsum
        exact List.length_eq_zero_iff.mp (by omega)
      subst hnone
      exact List.forall_mem_cons.mpr ⟨hb, ih htail⟩
  · intro h
    rw [List.flatMap_congr h, List.flatMap_singleton']

end Text

namespace Escape

/-- The pieces that the written form of an element of a list comes apart into. -/
def pieces (v : String) : List String :=
  (fieldsOf ',' (escape v.toList)).map String.ofList

theorem pieces_ne_nil (v : String) : pieces v ≠ [] := by
  rw [pieces, Ne, List.map_eq_nil_iff]
  exact fieldsOf_ne_nil ',' _

theorem pieces_eq_singleton_iff {v : String} :
    pieces v = [v] ↔ ∀ c ∈ v.toList, escapeChar c = [c] := by
  rw [← escape_eq_self_iff]
  constructor
  · intro h
    have hfields : fieldsOf ',' (escape v.toList) = [v.toList] := by
      simpa [pieces, List.map_eq_singleton_iff, String.ofList_eq] using h
    rw [← joinWith_fieldsOf ',' (escape v.toList), hfields, joinWith]
  · intro h
    have hcomma : ',' ∉ v.toList := fun hmem =>
      (escapeChar_eq_self_iff.mp (escape_eq_self_iff.mp h ',' hmem)).2.2.1 rfl
    rw [pieces, h, fieldsOf_of_not_mem hcomma, List.map_singleton, String.ofList_toList]

end Escape

namespace Property

/-- A list of texts under one of the names that are kept for lists. -/
structure TextList (p : Property) : Prop where
  isList : ValueType.isList p.name = true
  valueType : p.valueType = ValueType.text
  params : ∀ q ∈ p.params, CanonicalParam q.1 q.2
  values_ne : p.values ≠ []

/-- A list of texts as it is read: in the pieces of its elements. -/
def inPieces (p : Property) : Property := { p with values := p.values.flatMap Escape.pieces }

namespace TextList

variable {p : Property} (h : p.TextList)
include h

theorem name_word : isCapitalWord p.name.toList = true := by
  rcases (by simpa [ValueType.isList] using h.isList : p.name = "CATEGORIES" ∨ p.name = "RESOURCES")
    with hname | hname <;> rw [hname] <;> decide

theorem leavesType : p.LeavesType :=
  .inl (h.valueType.trans (ValueType.ofName_of_isList h.isList).symm)

theorem writtenValue_eq (v : String) : p.writtenValue v = Escape.escape v.toList :=
  if_pos h.valueType

theorem inForm : p.InForm where
  name_word := h.name_word
  ne_begin := fun hname => absurd h.isList (by rw [hname]; decide)
  ne_end := fun hname => absurd h.isList (by rw [hname]; decide)
  params := h.params
  type_word := by
    rw [h.valueType]
    decide
  oneLine := feed_not_mem_valueText_of_text h.valueType

theorem values_toProperty_raw : p.raw.toProperty.values = p.values.flatMap Escape.pieces := by
  have hvalue : p.raw.value = joinWith ',' (p.values.map fun v => Escape.escape v.toList) := by
    have hwritten : p.writtenValue = fun v => Escape.escape v.toList := funext h.writtenValue_eq
    rw [← hwritten, ← valueText_eq]
    rfl
  have hfields : fieldsOf ',' p.raw.value =
      p.values.flatMap fun v => fieldsOf ',' (Escape.escape v.toList) := by
    rw [hvalue, fieldsOf_joinWith_eq_flatMap (by simpa using h.values_ne), List.flatMap_map]
  have hname : ValueType.isList (String.ofList p.raw.name) = true := by simpa [raw] using h.isList
  have hraw : p.raw.toProperty.values = (fieldsOf ',' p.raw.value).map String.ofList := by
    rw [RawProperty.toProperty]
    simp [h.inForm.regular.isEscaped_raw_of_isList h.isList, hname]
  rw [hraw, hfields, List.map_flatMap]
  rfl

/-- A list of texts is read with its name, its parameters and its type, and in pieces. -/
theorem reread_eq : p.reread = p.inPieces := by
  have htype : p.raw.valueType = p.valueType := by
    rw [h.inForm.regular.valueType_raw, if_pos h.leavesType,
      ValueType.ofName_of_isList h.isList, h.valueType]
  exact h.inForm.reread_eq rfl rfl htype h.values_toProperty_raw

omit h in
theorem values_inPieces_eq_iff (hchars : ∀ v ∈ p.values, '\r' ∉ v.toList ∧ '\\' ∉ v.toList) :
    p.inPieces.values = p.values ↔
      ∀ v ∈ p.values, ',' ∉ v.toList ∧ ';' ∉ v.toList ∧ '\n' ∉ v.toList := by
  rw [inPieces, flatMap_eq_self_iff Escape.pieces_ne_nil]
  refine forall₂_congr fun v hv => ?_
  rw [Escape.pieces_eq_singleton_iff]
  simp only [Escape.escapeChar_eq_self_iff]
  constructor
  · intro hself
    exact ⟨fun hc => (hself _ hc).2.2.1 rfl, fun hs => (hself _ hs).2.1 rfl,
      fun hn => (hself _ hn).2.2.2.1 rfl⟩
  · rintro ⟨hc, hs, hn⟩ c hmem
    obtain ⟨hr, hb⟩ := hchars v hv
    exact ⟨fun he => hb (he ▸ hmem), fun he => hs (he ▸ hmem), fun he => hc (he ▸ hmem),
      fun he => hn (he ▸ hmem), fun he => hr (he ▸ hmem)⟩

end TextList

end Property

namespace Document

/-- A list of texts comes back from the document of a calendar in its place and with its parameters,
in the pieces that the written forms of its elements come apart into at their commas. Where no
element holds a carriage return or a backslash, these are the elements themselves exactly when none
of them holds a comma, a semicolon or a line feed. -/
theorem read_toText_place_inPieces {p : Property} (h : p.TextList) :
    read (({} : Surroundings).place p).toText = .ok (({} : Surroundings).place p.inPieces) ∧
      (∀ s : Surroundings, s.Legible →
        read (s.place p).toText = .ok (s.reread.place p.inPieces)) ∧
      ((∀ v ∈ p.values, '\r' ∉ v.toList ∧ '\\' ∉ v.toList) →
        (p.inPieces.values = p.values ↔
          ∀ v ∈ p.values, ',' ∉ v.toList ∧ ';' ∉ v.toList ∧ '\n' ∉ v.toList)) := by
  have hplace : ∀ s : Surroundings, s.Legible →
      read (s.place p).toText = .ok (s.reread.place p.inPieces) := by
    intro s hs
    rw [read_toText (hs.place h.inForm.legible) rfl, s.reread_place, h.reread_eq]
  exact ⟨hplace {} Surroundings.legible_empty, hplace, Property.TextList.values_inPieces_eq_iff⟩

/-- Categories of which two hold a separator. -/
def labels : Property where
  name := "CATEGORIES"
  params := [("LANGUAGE", "en; de")]
  values := ["work", "north, south", "a;b"]

theorem textList_labels : labels.TextList := ⟨by decide, rfl, by decide +kernel, by decide⟩

theorem read_toText_place_labels : labels.TextList ∧ folderEvent.Legible ∧
    read (folderEvent.place labels).toText = .ok (folderEvent.reread.place
      { labels with values := ["work", "north\\", " south", "a\\;b"] }) ∧
    (∀ v ∈ labels.values, '\r' ∉ v.toList ∧ '\\' ∉ v.toList) ∧
    labels.inPieces.values ≠ labels.values := by
  have hpieces : labels.inPieces =
      { labels with values := ["work", "north\\", " south", "a\\;b"] } := by decide +kernel
  have hchars : ∀ v ∈ labels.values, '\r' ∉ v.toList ∧ '\\' ∉ v.toList := by decide +kernel
  obtain ⟨-, hplace, hvalues⟩ := read_toText_place_inPieces textList_labels
  refine ⟨textList_labels, legible_folderEvent, ?_, hchars, ?_⟩
  · rw [hplace folderEvent legible_folderEvent, hpieces]
  · intro heq
    exact absurd ((hvalues hchars).mp heq) (by decide +kernel)

/-- A category that holds a comma comes back as two, the first with a backslash at its end. -/
theorem not_forall_read_toText_place : ¬ ∀ vs : List String, vs ≠ [] →
    (∀ v ∈ vs, '\r' ∉ v.toList ∧ '\\' ∉ v.toList) →
      read (({} : Surroundings).place { name := "CATEGORIES", values := vs }).toText =
        .ok (({} : Surroundings).place { name := "CATEGORIES", values := vs }) := by
  intro h
  have hlist : Property.TextList { name := "CATEGORIES", values := ["a,b"] } :=
    ⟨by decide, rfl, by simp, by decide⟩
  have hread := h ["a,b"] (by decide) (by decide +kernel)
  rw [read_toText (Surroundings.legible_empty.place hlist.inForm.legible) rfl,
    Surroundings.reread_place, hlist.reread_eq, Except.ok.injEq] at hread
  exact absurd hread (by decide +kernel)

end Document

end CalendarRelay
