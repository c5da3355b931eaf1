import CalendarRelay.Proofs.Body
import CalendarRelay.Proofs.Escape
import CalendarRelay.Proofs.Rereading

namespace CalendarRelay

open Text Document Folding

namespace Text

theorem fieldsOf_of_not_mem {sep : Char} {cs : List Char} (h : sep ∉ cs) :
    fieldsOf sep cs = [cs] := by
  induction cs with
  | nil => rfl
  | cons c cs ih =>
    simp only [List.mem_cons, not_or] at h
    rw [fieldsOf, if_neg (Ne.symm h.1), ih h.2]

theorem fieldsOf_append_cons (sep : Char) (a b : List Char) :
    fieldsOf sep (a ++ sep :: b) = fieldsOf sep a ++ fieldsOf sep b := by
  induction a with
  | nil => simp [fieldsOf]
  | cons c a ih =>
    rw [List.cons_append, fieldsOf, fieldsOf, ih]
    split
    · rfl
    · cases hfields : fieldsOf sep a with
      | nil => exact absurd hfields (fieldsOf_ne_nil sep a)
      | cons piece pieces => rfl

/-- What is joined comes apart again at every separator, also at those within the pieces. -/
theorem fieldsOf_joinWith_eq_flatMap {sep : Char} {pieces : List (List Char)} (h : pieces ≠ []) :
    fieldsOf sep (joinWith sep pieces) = pieces.flatMap (fieldsOf sep) := by
  induction pieces with
  | nil => exact absurd rfl h
  | cons piece pieces ih =>
    cases pieces with
    | nil => simp [joinWith]
    | cons next pieces =>
      rw [joinWith, fieldsOf_append_cons, ih (by simp)]
      · rfl
      · simp

/-- Pieces without the separator are found again in what they are joined to. -/
theorem fieldsOf_joinWith {sep : Char} {pieces : List (List Char)} (hne : pieces ≠ [])
    (h : ∀ piece ∈ pieces, sep ∉ piece) : fieldsOf sep (joinWith sep pieces) = pieces := by
  have hpieces : ∀ piece ∈ pieces, fieldsOf sep piece = [piece] :=
    fun piece hpiece => fieldsOf_of_not_mem (h piece hpiece)
  rw [fieldsOf_joinWith_eq_flatMap hne, List.flatMap_congr hpieces, List.flatMap_singleton']

theorem mem_joinWith {sep c : Char} {pieces : List (List Char)} (h : c ∈ joinWith sep pieces) :
    c = sep ∨ ∃ piece ∈ pieces, c ∈ piece := by
  induction pieces with
  | nil => simp [joinWith] at h
  | cons piece pieces ih =>
    cases pieces with
    | nil => exact .inr ⟨piece, by simp, h⟩
    | cons next pieces =>
      rw [joinWith, List.mem_append, List.mem_cons] at h
      · rcases h with h | h | h
        · exact .inr ⟨piece, by simp, h⟩
        · exact .inl h
        · rcases ih h with hc | ⟨q, hq, hc⟩
          · exact .inl hc
          · exact .inr ⟨q, by simp [hq], hc⟩
      · simp

end Text

namespace ValueType

/-- The properties with text values, but for the lists, are the ones that are read as text. -/
theorem isTextName_of_isCapitalWord {name : String} (h : isCapitalWord name.toList = true) :
    isTextName name = (!isList name && ofName name == text) := by
  have hsmall : name.toList.any Unicode.Letter.isLowercase = false := by
    rw [List.any_eq_false]
    intro c hc
    have hcap := isCapital_of_isCapitalWord h c hc
    have hlower := isLower_eq_false_of_isCapital hcap
    simp [Unicode.Letter.isLowercase, isAscii_of_isCapital hcap, isLowerChar_eq, hlower]
  rw [isTextName, hsmall]
  rfl

end ValueType

/-- Whether a character is one of the control characters of Unicode. -/
def Text.isControl (c : Char) : Bool := c.toNat < 0x20 || 0x7F ≤ c.toNat && c.toNat ≤ 0x9F

namespace Property

/-- What the value of a parameter may hold: separators, but no marks that quote or escape and no
control characters. -/
def isParamChar (c : Char) : Bool :=
  c != '"' && c != '\\' && c != '^' && !isControl c

/-- A parameter in the form that the writer gives to parameters. -/
structure CanonicalParam (key value : String) : Prop where
  key_word : isCapitalWord key.toList = true
  ne_type : key ≠ "VALUE"
  value_ne : value.toList ≠ []
  value_chars : value.toList.all isParamChar = true

namespace CanonicalParam

variable {key value : String} (h : CanonicalParam key value)
include h

theorem ne_of_mem_value {c : Char} (hc : c ∈ value.toList) : c ≠ '"' ∧ c ≠ '\n' := by
  have hchar := List.all_eq_true.mp h.value_chars c hc
  constructor <;> rintro rfl <;> revert hchar <;> decide

theorem legible : LegibleParam key value :=
  legibleParam_of_not_mem (isKeyChar_of_isCapitalWord h.key_word)
    fun hquote => (h.ne_of_mem_value hquote).1 rfl

theorem regular : IsName key ∧ key ≠ "VALUE" := ⟨isName_of_isCapitalWord h.key_word, h.ne_type⟩

end CanonicalParam

/-- A property with a name, parameters and a type in the form that the writer gives to them, whose
values are written on one line. -/
structure InForm (p : Property) : Prop where
  name_word : isCapitalWord p.name.toList = true
  ne_begin : p.name ≠ "BEGIN"
  ne_end : p.name ≠ "END"
  params : ∀ q ∈ p.params, CanonicalParam q.1 q.2
  type_word : isSmallWord p.valueType.toList = true
  oneLine : '\n' ∉ p.valueText

namespace InForm

variable {p : Property} (h : p.InForm)
include h

theorem isKeyChar_of_mem_upper_valueType {c : Char} (hc : c ∈ (upper p.valueType).toList) :
    isKeyChar c = true := by
  have hword := h.type_word
  simp only [isSmallWord, Bool.and_eq_true, List.all_eq_true] at hword
  rw [toList_upper] at hc
  obtain ⟨d, hd, rfl⟩ := List.mem_map.mp hc
  exact isKeyChar_of_isCapital (isCapital_toUpper (hword.2 d hd))

theorem legible : p.Legible where
  name := isName_of_isCapitalWord h.name_word
  ne_begin := h.ne_begin
  ne_end := h.ne_end
  params := fun q hq => (h.params q hq).legible
  type_bare := fun _ hc => bare_of_isKeyChar (h.isKeyChar_of_mem_upper_valueType hc)
  breakFree := breakFree_of_not_mem h.oneLine

theorem regular : p.Regular where
  name := isName_of_isCapitalWord h.name_word
  params := fun q hq => (h.params q hq).regular
  valueType := lower_upper_of_isSmallWord h.type_word

theorem not_mem_contentLine : '\n' ∉ p.contentLine := by
  refine h.legible.feed_not_mem_contentLine ?_ (.inr ?_) h.oneLine
  · exact fun q hq hn => ((h.params q hq).ne_of_mem_value hn).2 rfl
  · exact feed_not_mem_of_isKeyChar fun _ => h.isKeyChar_of_mem_upper_valueType

/-- The content line is read as one property, with the name and the parameters that it was written
from. -/
theorem reread_eq {q : Property} (hname : q.name = p.name) (hparams : q.params = p.params)
    (htype : p.raw.valueType = q.valueType) (hvalues : p.raw.toProperty.values = q.values) :
    p.reread = q := by
  rw [reread, h.legible.found_eq_raw (foldFree_of_not_mem h.not_mem_contentLine)]
  exact Property.ext (h.regular.name_toProperty_raw.trans hname.symm)
    (h.regular.params_toProperty_raw.trans hparams.symm) htype hvalues

end InForm

/-- A property in the form that the writer gives to properties. A property has one value, unless
it is a list, and a type that a reader of its line can tell. -/
structure Canonical (p : Property) : Prop where
  name_word : isCapitalWord p.name.toList = true
  ne_begin : p.name ≠ "BEGIN"
  ne_end : p.name ≠ "END"
  params : ∀ q ∈ p.params, CanonicalParam q.1 q.2
  valueType : p.valueType = ValueType.ofName p.name ∨
    isSmallWord p.valueType.toList = true ∧ p.valueType ≠ ValueType.text ∧
      p.valueType ≠ ValueType.unknown
  values : if ValueType.isList p.name = true then p.values ≠ [] ∧ ∀ v ∈ p.values, ',' ∉ v.toList
    else p.values.length = 1
  text_values : p.valueType = ValueType.text → ∀ v ∈ p.values, '\r' ∉ v.toList ∧ '\\' ∉ v.toList
  other_values : p.valueType ≠ ValueType.text → ∀ v ∈ p.values, '\r' ∉ v.toList ∧
    '\n' ∉ v.toList ∧ (ValueType.ofName p.name = ValueType.text → '\\' ∉ v.toList)

/-- Whether the values are text of a list, which is written with escapes and read as it stands. -/
def isTextList (p : Property) : Bool :=
  ValueType.isList p.name && p.valueType == ValueType.text

/-- A value as it is written. -/
def writtenValue (p : Property) (v : String) : List Char :=
  if p.valueType = ValueType.text then Escape.escape v.toList else v.toList

theorem valueText_eq (p : Property) : p.valueText = joinWith ',' (p.values.map p.writtenValue) :=
  rfl

theorem mem_valueText {p : Property} {c : Char} (hc : c ∈ p.valueText) :
    c = ',' ∨ ∃ v ∈ p.values, c ∈ p.writtenValue v := by
  rw [valueText_eq] at hc
  rcases mem_joinWith hc with rfl | ⟨piece, hpiece, hc⟩
  · exact .inl rfl
  · obtain ⟨v, hv, rfl⟩ := List.mem_map.mp hpiece
    exact .inr ⟨v, hv, hc⟩

/-- Text values are written without line ends, whatever they hold. -/
theorem isLineEnd_of_mem_valueText_of_text {p : Property} (ht : p.valueType = ValueType.text)
    {c : Char} (hc : c ∈ p.valueText) : isLineEnd c = false := by
  rcases mem_valueText hc with rfl | ⟨v, -, hc⟩
  · rfl
  · rw [writtenValue, if_pos ht] at hc
    exact Escape.isLineEnd_of_mem_escape hc

theorem feed_not_mem_valueText_of_text {p : Property} (ht : p.valueType = ValueType.text) :
    '\n' ∉ p.valueText := by
  intro hn
  simpa [isLineEnd] using isLineEnd_of_mem_valueText_of_text ht hn

/-- Text that is no list is read as escaped. -/
theorem Regular.isEscaped_raw_of_text {p : Property} (h : p.Regular)
    (hlist : ValueType.isList p.name = false) (hword : isCapitalWord p.name.toList = true)
    (hname : ValueType.ofName p.name = ValueType.text) (ht : p.valueType = ValueType.text) :
    p.raw.isEscaped = true := by
  have hleaves : p.LeavesType := .inl (ht.trans hname.symm)
  rw [h.isEscaped_raw, if_pos (.inl hleaves), ValueType.isTextName_of_isCapitalWord hword]
  simp [hlist, hname]

/-- A single value comes back if it is the one that its written form stands for. -/
theorem values_toProperty_raw_of_single {p : Property} {v : String}
    (hlist : ValueType.isList p.name = false) (hv : p.values = [v])
    (hread : (if p.raw.isEscaped then Escape.unescape (p.writtenValue v) else p.writtenValue v) =
      v.toList) : p.raw.toProperty.values = p.values := by
  have hvalue : p.raw.value = p.writtenValue v := by simp [raw, valueText_eq, hv, joinWith]
  have hname : ValueType.isList (String.ofList p.raw.name) = false := by simpa [raw] using hlist
  rw [← hvalue] at hread
  rw [RawProperty.toProperty]
  simp only [hread, hname]
  simp [hv]

/-- What a canonical property is read as: the values of lists keep their escapes. -/
def withEscapes (p : Property) : Property :=
  if p.isTextList then { p with values := p.values.map fun v => String.ofList (p.writtenValue v) }
  else p

@[simp] theorem name_withEscapes (p : Property) : p.withEscapes.name = p.name := by
  rw [withEscapes]; split <;> rfl

@[simp] theorem params_withEscapes (p : Property) : p.withEscapes.params = p.params := by
  rw [withEscapes]; split <;> rfl

@[simp] theorem valueType_withEscapes (p : Property) : p.withEscapes.valueType = p.valueType := by
  rw [withEscapes]; split <;> rfl

/-- Whether no text value of a list needs an escape. -/
def IsPlain (p : Property) : Prop :=
  p.isTextList = true → ∀ v ∈ p.values, ';' ∉ v.toList ∧ '\n' ∉ v.toList

instance (key value : String) : Decidable (CanonicalParam key value) :=
  decidable_of_iff
    (isCapitalWord key.toList = true ∧ key ≠ "VALUE" ∧ value.toList ≠ [] ∧
      value.toList.all isParamChar = true)
    ⟨fun ⟨hk, ht, hv, hc⟩ => ⟨hk, ht, hv, hc⟩, fun ⟨hk, ht, hv, hc⟩ => ⟨hk, ht, hv, hc⟩⟩

instance (p : Property) : Decidable p.Canonical :=
  decidable_of_iff
    (isCapitalWord p.name.toList = true ∧ p.name ≠ "BEGIN" ∧ p.name ≠ "END" ∧
      (∀ q ∈ p.params, CanonicalParam q.1 q.2) ∧
      (p.valueType = ValueType.ofName p.name ∨
        isSmallWord p.valueType.toList = true ∧ p.valueType ≠ ValueType.text ∧
          p.valueType ≠ ValueType.unknown) ∧
      (if ValueType.isList p.name = true then p.values ≠ [] ∧ ∀ v ∈ p.values, ',' ∉ v.toList
        else p.values.length = 1) ∧
      (p.valueType = ValueType.text → ∀ v ∈ p.values, '\r' ∉ v.toList ∧ '\\' ∉ v.toList) ∧
      (p.valueType ≠ ValueType.text → ∀ v ∈ p.values, '\r' ∉ v.toList ∧ '\n' ∉ v.toList ∧
        (ValueType.ofName p.name = ValueType.text → '\\' ∉ v.toList)))
    ⟨fun ⟨hn, hb, he, hp, hvt, hv, ht, ho⟩ => ⟨hn, hb, he, hp, hvt, hv, ht, ho⟩,
      fun ⟨hn, hb, he, hp, hvt, hv, ht, ho⟩ => ⟨hn, hb, he, hp, hvt, hv, ht, ho⟩⟩

instance (p : Property) : Decidable p.IsPlain :=
  inferInstanceAs (Decidable (_ = true → ∀ v ∈ p.values, ';' ∉ v.toList ∧ '\n' ∉ v.toList))

namespace Canonical

variable {p : Property} (h : p.Canonical)
include h

theorem isLineEnd_of_mem_valueText {c : Char} (hc : c ∈ p.valueText) : isLineEnd c = false := by
  by_cases ht : p.valueType = ValueType.text
  · exact isLineEnd_of_mem_valueText_of_text ht hc
  · rcases mem_valueText hc with rfl | ⟨v, hv, hc⟩
    · rfl
    · rw [writtenValue, if_neg ht] at hc
      obtain ⟨hr, hn, -⟩ := h.other_values ht v hv
      have hcr : c ≠ '\r' := by rintro rfl; exact hr hc
      have hcn : c ≠ '\n' := by rintro rfl; exact hn hc
      simp [isLineEnd, hcr, hcn]

theorem inForm : p.InForm where
  name_word := h.name_word
  ne_begin := h.ne_begin
  ne_end := h.ne_end
  params := h.params
  type_word := by
    rcases h.valueType with ht | ⟨ht, -⟩
    · rw [ht]
      exact ValueType.isSmallWord_ofName p.name
    · exact ht
  oneLine := fun hn => by simpa [isLineEnd] using h.isLineEnd_of_mem_valueText hn

/-- The reader tells the type of the values, whether the line names it or not. -/
theorem valueType_raw : p.raw.valueType = p.valueType := by
  rw [h.inForm.regular.valueType_raw]
  split
  · rename_i ht
    rcases h.valueType with hd | ⟨-, -, hd⟩
    · exact hd.symm
    · exact (ht.resolve_right hd).symm
  · rfl

/-- Text that is no list is read as escaped. -/
theorem isEscaped_raw_of_text (hlist : ValueType.isList p.name = false)
    (ht : p.valueType = ValueType.text) : p.raw.isEscaped = true := by
  have hname : ValueType.ofName p.name = ValueType.text := by
    rcases h.valueType with hd | ⟨-, hd, -⟩
    · exact hd.symm.trans ht
    · exact absurd ht hd
  exact h.inForm.regular.isEscaped_raw_of_text hlist h.name_word hname ht

/-- Values of another type are read as escaped only where the name stands for text. -/
theorem ofName_of_isEscaped_raw (ht : p.valueType ≠ ValueType.text)
    (hescaped : p.raw.isEscaped = true) : ValueType.ofName p.name = ValueType.text := by
  rw [h.inForm.regular.isEscaped_raw] at hescaped
  split at hescaped
  · exact ValueType.ofName_of_isTextName hescaped
  · exact absurd (beq_iff_eq.mp hescaped) ht

/-- The value that is read is the one that was written, unless it is part of a list. -/
theorem values_toProperty_raw (hlist : ValueType.isList p.name = false) :
    p.raw.toProperty.values = p.values := by
  obtain ⟨v, hv⟩ : ∃ v, p.values = [v] := by
    rw [← List.length_eq_one_iff]
    simpa [hlist] using h.values
  refine values_toProperty_raw_of_single hlist hv ?_
  rw [writtenValue]
  by_cases ht : p.valueType = ValueType.text
  · have hchars := h.text_values ht v (by simp [hv])
    rw [if_pos (h.isEscaped_raw_of_text hlist ht), if_pos ht, Escape.unescape_escape hchars.1]
  · rw [if_neg ht]
    split
    · rename_i hescaped
      have hchars := h.other_values ht v (by simp [hv])
      exact Escape.unescape_eq_self (hchars.2.2 (h.ofName_of_isEscaped_raw ht hescaped))
    · rfl

/-- The values of a list come back as they are written. -/
theorem values_toProperty_raw_of_isList (hlist : ValueType.isList p.name = true) :
    p.raw.toProperty.values = p.values.map fun v => String.ofList (p.writtenValue v) := by
  obtain ⟨hne, hcomma⟩ : p.values ≠ [] ∧ ∀ v ∈ p.values, ',' ∉ v.toList := by
    simpa [hlist] using h.values
  have hpieces : ∀ piece ∈ p.values.map p.writtenValue, ',' ∉ piece := by
    intro piece hpiece hmem
    obtain ⟨v, hv, rfl⟩ := List.mem_map.mp hpiece
    rw [writtenValue] at hmem
    split at hmem
    · rcases Escape.mem_of_mem_escape hmem with hc | hc | hc
      · simp at hc
      · simp at hc
      · exact hcomma v hv hc
    · exact hcomma v hv hmem
  have hfields : fieldsOf ',' p.raw.value = p.values.map p.writtenValue :=
    fieldsOf_joinWith (by simpa using hne) hpieces
  have hname : ValueType.isList (String.ofList p.raw.name) = true := by simpa [raw] using hlist
  rw [RawProperty.toProperty]
  simp [h.inForm.regular.isEscaped_raw_of_isList hlist, hname, hfields]

/-- Reading the content line of a canonical property. -/
theorem reread_eq : p.reread = p.withEscapes := by
  have htype : p.raw.valueType = p.withEscapes.valueType :=
    h.valueType_raw.trans p.valueType_withEscapes.symm
  have hvalues : p.raw.toProperty.values = p.withEscapes.values := by
    rw [withEscapes, isTextList]
    cases hlist : ValueType.isList p.name with
    | false => simpa using h.values_toProperty_raw hlist
    | true =>
      rw [h.values_toProperty_raw_of_isList hlist]
      by_cases ht : p.valueType = ValueType.text
      · simp [ht]
      · simp [ht, writtenValue]
  exact h.inForm.reread_eq p.name_withEscapes p.params_withEscapes htype hvalues

/-- Values of a list come back unchanged when they need no escapes, and only then. -/
theorem withEscapes_eq_self_iff : p.withEscapes = p ↔ p.IsPlain := by
  rw [IsPlain]
  cases hlist : p.isTextList with
  | false => simp [withEscapes, hlist]
  | true =>
    obtain ⟨hname, ht⟩ : ValueType.isList p.name = true ∧ p.valueType = ValueType.text := by
      simpa [isTextList] using hlist
    have hcomma : ∀ v ∈ p.values, ',' ∉ v.toList := by
      have hvalues := h.values
      rw [if_pos hname] at hvalues
      exact hvalues.2
    have hvalue : ∀ v ∈ p.values, String.ofList (p.writtenValue v) = v ↔
        ';' ∉ v.toList ∧ '\n' ∉ v.toList := by
      intro v hv
      have hchars := h.text_values ht v hv
      rw [writtenValue, if_pos ht, ← String.toList_inj, String.toList_ofList,
        Escape.escape_eq_self_iff]
      simp only [Escape.escapeChar_eq_self_iff]
      constructor
      · intro hself
        exact ⟨fun hs => (hself _ hs).2.1 rfl, fun hn => (hself _ hn).2.2.2.1 rfl⟩
      · rintro ⟨hs, hn⟩ c hc
        refine ⟨?_, ?_, ?_, ?_, ?_⟩
        · rintro rfl; exact hchars.2 hc
        · rintro rfl; exact hs hc
        · rintro rfl; exact hcomma v hv hc
        · rintro rfl; exact hn hc
        · rintro rfl; exact hchars.1 hc
    have hself : p.withEscapes = p ↔
        p.values.map (fun v => String.ofList (p.writtenValue v)) = p.values := by
      rw [Property.ext_iff, withEscapes, if_pos hlist]
      simp
    rw [hself]
    constructor
    · intro hmap _ v hv
      have heach := List.map_eq_map_iff.mp (hmap.trans (List.map_id p.values).symm)
      exact (hvalue v hv).mp (heach v hv)
    · intro hplain
      have heach := List.map_congr_left (g := id) fun v hv => (hvalue v hv).mpr (hplain rfl v hv)
      exact heach.trans (List.map_id p.values)

end Canonical

end Property

namespace Component

/-- A component all of whose names and properties are canonical. -/
def Canonical (c : Component) : Prop :=
  c.Throughout fun d => isCapitalWord d.name.toList = true ∧ ∀ p ∈ d.properties, p.Canonical

theorem Canonical.legible {c : Component} (h : c.Canonical) : c.Legible :=
  h.imp fun _ hd => ⟨isName_of_isCapitalWord hd.1, fun p hp => (hd.2 p hp).inForm.legible⟩

theorem Canonical.reread_eq {c : Component} (h : c.Canonical) :
    c.reread = c.mapProperties Property.withEscapes :=
  mapProperties_congr (h.imp fun _ hd p hp => (hd.2 p hp).reread_eq)

end Component

namespace Document

theorem read_toText_eq_withEscapes {c : Component} (h : c.Canonical)
    (hname : c.name = "VCALENDAR") :
    read c.toText = .ok (c.mapProperties Property.withEscapes) := by
  rw [read_toText h.legible hname, h.reread_eq]

/-- A canonical calendar is read from its document, except that text values of lists keep the
escapes they were written with. The calendar itself comes back exactly when none of them holds a
semicolon or a line feed. -/
theorem read_toText_of_canonical {c : Component} (h : c.Canonical) (hname : c.name = "VCALENDAR") :
    read c.toText = .ok (c.mapProperties Property.withEscapes) ∧
      (read c.toText = .ok c ↔ c.Throughout fun d => ∀ p ∈ d.properties, p.IsPlain) := by
  have hread := read_toText_eq_withEscapes h hname
  refine ⟨hread, ?_⟩
  rw [hread, Except.ok.injEq, Component.mapProperties_eq_self_iff]
  exact Component.Throughout.congr
    (h.imp fun d hd => forall₂_congr fun p hp => (hd.2 p hp).withEscapes_eq_self_iff)

/-- A calendar with an event that has a long summary, quoted parameters, a type of its own and an
alarm. -/
def meeting : Component where
  name := "VCALENDAR"
  properties := [{ name := "PRODID", values := ["-//relay;日历//EN"] }]
  components := [
    { name := "VEVENT"
      properties := [
        { name := "DTSTART", params := [("TZID", "Asia/Shanghai")], valueType := "date-time"
          values := ["20260301T090000"] },
        { name := "DTEND", valueType := "date", values := ["20260302"] },
        { name := "SUMMARY"
          values := ["季度评审会议, 第一部分; 请提前阅读材料并准备问题\n地点: 三楼大会议室, 可远程参加"] },
        { name := "CATEGORIES", values := ["工作", "review"] },
        { name := "ATTENDEE", params := [("CN", "Doe; Jane: a, b"), ("ROLE", "CHAIR")]
          valueType := "cal-address", values := ["mailto:jane@example.com"] }]
      components := [
        { name := "VALARM"
          properties := [{ name := "TRIGGER", valueType := "duration", values := ["-PT15M"] }] }] }]

theorem canonical_meeting : meeting.Canonical := by
  refine .intro ⟨by decide, by decide +kernel⟩ ?_
  simp only [meeting, List.forall_mem_singleton]
  refine .intro ⟨by decide, by decide +kernel⟩ ?_
  simp only [List.forall_mem_singleton]
  exact .intro ⟨by decide, by decide +kernel⟩ (by simp)

theorem isPlain_meeting : meeting.Throughout fun d => ∀ p ∈ d.properties, p.IsPlain := by
  refine .intro (by decide +kernel) ?_
  simp only [meeting, List.forall_mem_singleton]
  refine .intro (by decide +kernel) ?_
  simp only [List.forall_mem_singleton]
  exact .intro (by decide +kernel) (by simp)

theorem read_toText_meeting : meeting.Canonical ∧ meeting.name = "VCALENDAR" ∧
    read meeting.toText = .ok meeting :=
  ⟨canonical_meeting, rfl, (read_toText_of_canonical canonical_meeting rfl).2.mpr isPlain_meeting⟩

/-- A calendar whose one category holds a semicolon. -/
def labelled : Component where
  name := "VCALENDAR"
  properties := [{ name := "CATEGORIES", values := ["a;b"] }]

theorem canonical_labelled : labelled.Canonical :=
  .intro ⟨by decide, by decide +kernel⟩ (by simp [labelled])

/-- A category that holds a semicolon comes back with a backslash before it. -/
theorem not_forall_read_toText :
    ¬ ∀ c : Component, c.Canonical → c.name = "VCALENDAR" → read c.toText = .ok c := by
  intro h
  have hread := h labelled canonical_labelled rfl
  rw [read_toText_eq_withEscapes canonical_labelled rfl, Except.ok.injEq] at hread
  have hchanged : labelled.mapProperties Property.withEscapes ≠ labelled := by decide +kernel
  exact hchanged hread

end Document

end CalendarRelay
