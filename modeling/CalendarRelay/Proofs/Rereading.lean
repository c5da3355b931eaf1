import CalendarRelay.Proofs.ContentLine

namespace CalendarRelay

open Text Document

theorem Document.IsName.sameName_eq {name word : String} (h : IsName name) (hword : IsName word) :
    sameName name word = (name == word) := by
  rw [Bool.eq_iff_iff, beq_iff_eq]
  constructor
  · intro hsame
    rw [← h.upper_eq, ← hword.upper_eq, upper_eq_of_sameName hsame]
  · rintro rfl
    exact sameName_refl name

namespace ValueType

theorem isSmallWord_ite {c : Prop} [Decidable c] {a b : String}
    (ha : isSmallWord a.toList = true) (hb : isSmallWord b.toList = true) :
    isSmallWord (if c then a else b).toList = true := by
  split
  · exact ha
  · exact hb

theorem isSmallWord_ofName (name : String) : isSmallWord (ofName name).toList = true := by
  unfold ofName
  iterate 11 refine isSmallWord_ite (by decide) ?_
  decide

theorem ofName_of_isList {name : String} (h : isList name = true) : ofName name = text := by
  rcases (by simpa [isList] using h : name = "CATEGORIES" ∨ name = "RESOURCES") with rfl | rfl <;>
    decide

theorem upper_of_isList {name : String} (h : isList name = true) : upper name = name := by
  rcases (by simpa [isList] using h : name = "CATEGORIES" ∨ name = "RESOURCES") with rfl | rfl <;>
    decide

theorem ofName_of_isTextName {name : String} (h : isTextName name = true) :
    ofName name = text := by
  simp only [isTextName, Bool.and_eq_true, beq_iff_eq] at h
  exact h.2

theorem isList_of_isTextName {name : String} (h : isTextName name = true) :
    isList name = false := by
  simp only [isTextName, Bool.and_eq_true] at h
  simpa using h.1.2

end ValueType

namespace Property

/-- A property with a name, keys and a type as the reader makes them. -/
structure Regular (p : Property) : Prop where
  name : IsName p.name
  params : ∀ q ∈ p.params, IsName q.1 ∧ q.1 ≠ "VALUE"
  valueType : lower (upper p.valueType) = p.valueType

/-- Whether the content line of a property leaves its type to the name. -/
def LeavesType (p : Property) : Prop :=
  p.valueType = ValueType.ofName p.name ∨ p.valueType = ValueType.unknown

instance (p : Property) : Decidable p.LeavesType := inferInstanceAs (Decidable (_ ∨ _))

theorem typeParams_of_leavesType {p : Property} (h : p.LeavesType) :
    typeParams p.name p.valueType = [] := if_pos h

theorem typeParams_of_not_leavesType {p : Property} (h : ¬p.LeavesType) :
    typeParams p.name p.valueType = [("VALUE".toList, (upper p.valueType).toList)] := if_neg h

/-- No part of a content line brings in a line feed of its own. -/
theorem Legible.feed_not_mem_contentLine {p : Property} (h : p.Legible)
    (hparams : ∀ q ∈ p.params, '\n' ∉ q.2.toList)
    (htype : p.LeavesType ∨ '\n' ∉ (upper p.valueType).toList) (hvalue : '\n' ∉ p.valueText) :
    '\n' ∉ p.contentLine := by
  rw [contentLine_eq h.name]
  intro hn
  rcases mem_lineText hn with hn | hn | hn | ⟨q, hq, hn⟩
  · exact feed_not_mem_of_isKeyChar h.name.chars hn
  · simp at hn
  · exact hvalue hn
  · have hn : '\n' ∈ q.1 ∨ '\n' ∈ q.2 := by simpa using hn
    rcases hn with hn | hn
    · exact feed_not_mem_of_isKeyChar (h.joined hq).1 hn
    · rcases List.mem_append.mp hq with hq | hq
      · obtain ⟨r, hr, rfl⟩ := List.mem_map.mp hq
        exact hparams r hr (by simpa using mem_writtenParam hn)
      · by_cases hleaves : p.LeavesType
        · simp [typeParams_of_leavesType hleaves] at hq
        · rw [typeParams_of_not_leavesType hleaves, List.mem_singleton] at hq
          rw [hq] at hn
          exact htype.resolve_left hleaves hn

namespace Regular

variable {p : Property} (h : p.Regular)
include h

theorem isTypeKey_eq_false {q : String × String} (hq : q ∈ p.params) :
    isTypeKey q.1.toList = false := by
  obtain ⟨hname, hne⟩ := h.params q hq
  simpa [isTypeKey, hname.upper_eq] using hne

theorem filter_typeKeys :
    p.raw.params.filter (fun q => isTypeKey q.1) = typeParams p.name p.valueType := by
  have hown : (p.params.map fun q => (q.1.toList, q.2.toList)).filter
      (fun q => isTypeKey q.1) = [] := by
    rw [List.filter_eq_nil_iff]
    intro q hq
    obtain ⟨r, hr, rfl⟩ := List.mem_map.mp hq
    rw [h.isTypeKey_eq_false hr]
    decide
  have htype : (typeParams p.name p.valueType).filter (fun q => isTypeKey q.1) =
      typeParams p.name p.valueType :=
    List.filter_eq_self.mpr fun _ hq => isTypeKey_of_mem_typeParams hq
  rw [raw, List.filter_append, hown, htype, List.nil_append]

theorem filter_otherKeys : p.raw.params.filter (fun q => !isTypeKey q.1) =
    p.params.map fun q => (q.1.toList, q.2.toList) := by
  have hown : (p.params.map fun q => (q.1.toList, q.2.toList)).filter
      (fun q => !isTypeKey q.1) = p.params.map fun q => (q.1.toList, q.2.toList) := by
    rw [List.filter_eq_self]
    intro q hq
    obtain ⟨r, hr, rfl⟩ := List.mem_map.mp hq
    rw [h.isTypeKey_eq_false hr, Bool.not_false]
  have htype : (typeParams p.name p.valueType).filter (fun q => !isTypeKey q.1) = [] := by
    rw [List.filter_eq_nil_iff]
    intro q hq
    rw [isTypeKey_of_mem_typeParams hq]
    decide
  rw [raw, List.filter_append, hown, htype, List.append_nil]

theorem find?_typeKey : (p.raw.params.find? fun q => String.ofList q.1 == "VALUE") =
    (typeParams p.name p.valueType).head? := by
  have hown : (p.params.map fun q => (q.1.toList, q.2.toList)).find?
      (fun q => String.ofList q.1 == "VALUE") = none := by
    rw [List.find?_eq_none]
    intro q hq
    obtain ⟨r, hr, rfl⟩ := List.mem_map.mp hq
    simpa using (h.params r hr).2
  rw [raw, List.find?_append, hown, Option.none_or, typeParams]
  split
  · rfl
  · simp

theorem name_toProperty_raw : p.raw.toProperty.name = p.name := by
  rw [RawProperty.toProperty]
  simp only [raw, String.ofList_toList]
  exact h.name.upper_eq

theorem params_toProperty_raw : p.raw.toProperty.params = p.params := by
  rw [RawProperty.toProperty]
  simp only [h.filter_otherKeys, List.map_map]
  rw [List.map_congr_left (g := id), List.map_id]
  intro q hq
  simp [(h.params q hq).1.upper_eq]

/-- A type that is left to the name is read as the one of the name. -/
theorem valueType_raw :
    p.raw.valueType = if p.LeavesType then ValueType.ofName p.name else p.valueType := by
  rw [RawProperty.valueType, h.filter_typeKeys]
  by_cases ht : p.LeavesType
  · simp [typeParams_of_leavesType ht, ht, raw]
  · simp [typeParams_of_not_leavesType ht, ht, h.valueType]

/-- Nothing but the text type has the name of it. -/
theorem upper_eq_iff : upper p.valueType = "TEXT" ↔ p.valueType = ValueType.text := by
  constructor
  · intro hu
    have hlower := h.valueType
    rw [hu] at hlower
    exact hlower.symm.trans (by decide)
  · intro ht
    rw [ht]
    decide

theorem isList_eq : (sameName p.name "CATEGORIES" || sameName p.name "RESOURCES") =
    ValueType.isList p.name := by
  have hword {word : String} (hw : isCapitalWord word.toList = true) := isName_of_isCapitalWord hw
  rw [h.name.sameName_eq (hword (by decide)), h.name.sameName_eq (hword (by decide))]
  rfl

/-- Lists are read as they stand. -/
theorem isEscaped_raw_of_isList (hlist : ValueType.isList p.name = true) :
    p.raw.isEscaped = false := by
  rw [RawProperty.isEscaped]
  simp only [raw, String.ofList_toList, h.isList_eq, hlist, if_true]

/-- The reader takes escapes back in text by name, and in text by a type that it knows. -/
theorem isEscaped_raw : p.raw.isEscaped =
    if p.LeavesType ∨ upper p.valueType ∉ ValueType.declarable then ValueType.isTextName p.name
    else p.valueType == ValueType.text := by
  rw [RawProperty.isEscaped, h.find?_typeKey]
  simp only [raw, String.ofList_toList, h.isList_eq]
  cases hname : ValueType.isList p.name with
  | true =>
    -- a list is text by its name, so that a type that is written is another one
    have hof := ValueType.ofName_of_isList hname
    have htext : ValueType.isTextName p.name = false := by
      simp [ValueType.isTextName, hname]
    by_cases ht : p.LeavesType
    · simp [ht, htext]
    · have hne : p.valueType ≠ ValueType.text := fun he => ht (.inl (he.trans hof.symm))
      simp [ht, htext, hne]
  | false =>
    by_cases ht : p.LeavesType
    · simp [typeParams_of_leavesType ht, ht]
    · have hbeq : (upper p.valueType == "TEXT") = (p.valueType == ValueType.text) := by
        rw [Bool.eq_iff_iff, beq_iff_eq, beq_iff_eq, h.upper_eq_iff]
      by_cases hd : upper p.valueType ∈ ValueType.declarable
      · simp [typeParams_of_not_leavesType ht, ht, hd, hbeq]
      · simp [typeParams_of_not_leavesType ht, ht, hd]

end Regular

end Property

end CalendarRelay
