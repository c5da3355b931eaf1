import CalendarRelay.Proofs.Canonical
import CalendarRelay.Proofs.Shape

namespace CalendarRelay

open Text Document Folding

theorem Text.mem_of_mem_fieldsOf {sep c : Char} {cs piece : List Char}
    (hpiece : piece ∈ fieldsOf sep cs) (hc : c ∈ piece) : c ∈ cs ∧ c ≠ sep := by
  induction cs generalizing piece with
  | nil => simp_all [fieldsOf]
  | cons a cs ih =>
    rw [fieldsOf] at hpiece
    split at hpiece
    · rcases List.mem_cons.mp hpiece with rfl | hpiece
      · simp at hc
      · have hrest := ih hpiece hc
        exact ⟨by simp [hrest.1], hrest.2⟩
    · rename_i ha
      split at hpiece
      · rename_i hnil
        exact absurd hnil (fieldsOf_ne_nil sep cs)
      · rename_i first pieces hfields
        rcases List.mem_cons.mp hpiece with rfl | hpiece
        · rcases List.mem_cons.mp hc with rfl | hc
          · exact ⟨by simp, ha⟩
          · have hrest := ih (by simp [hfields]) hc
            exact ⟨by simp [hrest.1], hrest.2⟩
        · have hrest := ih (by simp [hfields, hpiece]) hc
          exact ⟨by simp [hrest.1], hrest.2⟩

namespace Escape

theorem escape_filter_return (v : List Char) : escape (v.filter (· != '\r')) = escape v := by
  induction v with
  | nil => rfl
  | cons c cs ih =>
    by_cases hc : c = '\r'
    · subst hc
      simpa [escapeChar] using ih
    · simp [hc, ih]

/-- What is escaped comes back in the same escaped form, also without its carriage returns. -/
theorem escape_unescape_escape (v : List Char) : escape (unescape (escape v)) = escape v := by
  have hr : '\r' ∉ v.filter (· != '\r') := by simp
  have hback := unescape_escape hr
  rw [escape_filter_return] at hback
  rw [hback, escape_filter_return]

/-- Fields stay the same when no character but for the commas between them needs an escape. -/
theorem joinWith_map_escape_fieldsOf_iff {w : List Char} :
    joinWith ',' ((fieldsOf ',' w).map escape) = w ↔ ∀ c ∈ w, c = ',' ∨ escapeChar c = [c] := by
  constructor
  · intro h
    have hcomma : ∀ piece ∈ (fieldsOf ',' w).map escape, ',' ∉ piece := by
      intro piece hpiece hmem
      obtain ⟨field, hfield, rfl⟩ := List.mem_map.mp hpiece
      rcases mem_of_mem_escape hmem with hc | hc | hc
      · simp at hc
      · simp at hc
      · exact (mem_of_mem_fieldsOf hfield hc).2 rfl
    have hfields := fieldsOf_joinWith (by simpa using fieldsOf_ne_nil ',' w) hcomma
    rw [h] at hfields
    have heach := List.map_eq_map_iff.mp (hfields.symm.trans (List.map_id _).symm)
    intro c hc
    rw [← joinWith_fieldsOf ',' w] at hc
    rcases mem_joinWith hc with hsep | ⟨field, hfield, hc⟩
    · exact .inl hsep
    · exact .inr (escape_eq_self_iff.mp (heach field hfield) c hc)
  · intro h
    have heach : ∀ field ∈ fieldsOf ',' w, escape field = id field := by
      intro field hfield
      refine escape_eq_self_iff.mpr fun c hc => ?_
      obtain ⟨hmem, hne⟩ := mem_of_mem_fieldsOf hfield hc
      exact (h c hmem).resolve_left hne
    rw [List.map_congr_left heach, List.map_id, joinWith_fieldsOf]

end Escape

namespace Property

/-- Whether what is written for the values needs no escapes, commas between values apart. -/
def IsBare (p : Property) : Prop :=
  '\\' ∉ p.valueText ∧ ';' ∉ p.valueText ∧ '\n' ∉ p.valueText ∧ '\r' ∉ p.valueText ∧
    (',' ∈ p.valueText → ValueType.isList p.name = true)

/-- A property whose values are written again as they were. Text that the reader leaves as it is
needs no escapes. Text whose type is not written has its escapes already. Text of a type that the
reader does not know holds none. -/
structure Settled (p : Property) : Prop where
  kept : p.LeavesType → ValueType.ofName p.name = ValueType.text →
    ValueType.isTextName p.name = false → p.IsBare
  untyped : p.valueType = ValueType.unknown → ValueType.isTextName p.name = true →
    Escape.escape (Escape.unescape p.valueText) = p.valueText
  undeclarable : ¬p.LeavesType → upper p.valueType ∉ ValueType.declarable →
    ValueType.isTextName p.name = true → Escape.unescape p.valueText = p.valueText

instance (p : Property) : Decidable p.IsBare := inferInstanceAs (Decidable (_ ∧ _))

instance (p : Property) : Decidable p.Settled :=
  decidable_of_iff
    ((p.LeavesType → ValueType.ofName p.name = ValueType.text →
        ValueType.isTextName p.name = false → p.IsBare) ∧
      (p.valueType = ValueType.unknown → ValueType.isTextName p.name = true →
        Escape.escape (Escape.unescape p.valueText) = p.valueText) ∧
      (¬p.LeavesType → upper p.valueType ∉ ValueType.declarable →
        ValueType.isTextName p.name = true → Escape.unescape p.valueText = p.valueText))
    ⟨fun ⟨hk, ht, hd⟩ => ⟨hk, ht, hd⟩, fun ⟨hk, ht, hd⟩ => ⟨hk, ht, hd⟩⟩

variable {p : Property}

/-- What is written for the values that are read: the reader takes escapes back or not, and the
writer puts them in or not. -/
theorem valueText_toProperty_raw : p.raw.toProperty.valueText =
    joinWith ',' ((if ValueType.isList p.name then
        fieldsOf ',' (if p.raw.isEscaped then Escape.unescape p.valueText else p.valueText)
      else [if p.raw.isEscaped then Escape.unescape p.valueText else p.valueText]).map
        fun field => if p.raw.valueType = ValueType.text then Escape.escape field else field) := by
  have hname : ValueType.isList (String.ofList p.raw.name) = ValueType.isList p.name := by
    simp [raw]
  have hvalue : p.raw.value = p.valueText := rfl
  rw [valueText, RawProperty.toProperty]
  simp only [hname, hvalue]
  cases ValueType.isList p.name with
  | true =>
    simp only [if_true, List.map_map, Function.comp_def, String.toList_ofList]
  | false =>
    simp only [if_false, Bool.false_eq_true, List.map_cons, List.map_nil, String.toList_ofList]

/-- Without escapes on either side, values are written again as they were. -/
theorem valueText_of_verbatim (he : p.raw.isEscaped = false)
    (ht : p.raw.valueType ≠ ValueType.text) : p.raw.toProperty.valueText = p.valueText := by
  rw [valueText_toProperty_raw]
  simp only [he, ht, if_false, List.map_id', Bool.false_eq_true]
  split
  · exact joinWith_fieldsOf ',' p.valueText
  · rfl

theorem valueText_of_kept_iff (he : p.raw.isEscaped = false)
    (ht : p.raw.valueType = ValueType.text) :
    p.raw.toProperty.valueText = p.valueText ↔ p.IsBare := by
  have hbare : p.IsBare ↔ ∀ c ∈ p.valueText,
      c = ',' ∧ ValueType.isList p.name = true ∨ Escape.escapeChar c = [c] := by
    simp only [Escape.escapeChar_eq_self_iff]
    constructor
    · rintro ⟨hb, hs, hn, hr, hcomma⟩ c hc
      by_cases he : c = ','
      · exact .inl ⟨he, hcomma (he ▸ hc)⟩
      · refine .inr ⟨?_, ?_, he, ?_, ?_⟩ <;> rintro rfl
        · exact hb hc
        · exact hs hc
        · exact hn hc
        · exact hr hc
    · intro h
      refine ⟨?_, ?_, ?_, ?_, ?_⟩ <;> intro hmem <;> simpa using h _ hmem
  rw [hbare, valueText_toProperty_raw]
  simp only [he, ht, if_true, if_false, Bool.false_eq_true]
  cases ValueType.isList p.name with
  | true => simpa using Escape.joinWith_map_escape_fieldsOf_iff
  | false => simpa [joinWith] using Escape.escape_eq_self_iff

theorem valueText_of_escaped (hlist : ValueType.isList p.name = false)
    (he : p.raw.isEscaped = true) : p.raw.toProperty.valueText =
      if p.raw.valueType = ValueType.text then Escape.escape (Escape.unescape p.valueText)
      else Escape.unescape p.valueText := by
  rw [valueText_toProperty_raw]
  simp [he, hlist, joinWith]

/-- Text with its escapes is written again as it was. -/
theorem escape_unescape_valueText (hlist : ValueType.isList p.name = false)
    (hvalue : ValueType.isList p.name = false → ∃ v, p.values = [v])
    (ht : p.valueType = ValueType.text) :
    Escape.escape (Escape.unescape p.valueText) = p.valueText := by
  obtain ⟨v, hv⟩ := hvalue hlist
  have htext : p.valueText = Escape.escape v.toList := by
    simp [valueText_eq, hv, joinWith, writtenValue, ht]
  rw [htext, Escape.escape_unescape_escape]

theorem valueText_toProperty_raw_eq_iff (h : p.Regular)
    (hvalue : ValueType.isList p.name = false → ∃ v, p.values = [v]) :
    p.raw.toProperty.valueText = p.valueText ↔ p.Settled := by
  have hescaped := h.isEscaped_raw
  have htype := h.valueType_raw
  by_cases hleaves : p.LeavesType
  · rw [if_pos (.inl hleaves)] at hescaped
    rw [if_pos hleaves] at htype
    cases htext : ValueType.isTextName p.name with
    | true =>
      have hof := ValueType.ofName_of_isTextName htext
      have hlist := ValueType.isList_of_isTextName htext
      rw [valueText_of_escaped hlist (hescaped.trans htext), if_pos (htype.trans hof)]
      constructor
      · exact fun hback => ⟨by simp [htext], fun _ _ => hback, fun hn => absurd hleaves hn⟩
      · intro hs
        rcases hleaves with hd | hd
        · exact escape_unescape_valueText hlist hvalue (hd.trans hof)
        · exact hs.untyped hd htext
    | false =>
      by_cases hof : ValueType.ofName p.name = ValueType.text
      · rw [valueText_of_kept_iff (hescaped.trans htext) (htype.trans hof)]
        exact ⟨fun hbare => ⟨fun _ _ _ => hbare, by simp [htext], by simp [htext]⟩,
          fun hs => hs.kept hleaves hof htext⟩
      · have hback := valueText_of_verbatim (hescaped.trans htext) (htype ▸ hof)
        exact iff_of_true hback ⟨fun _ hn => absurd hn hof, by simp [htext], by simp [htext]⟩
  · rw [if_neg hleaves] at htype
    have hunknown : p.valueType ≠ ValueType.unknown := fun hu => hleaves (.inr hu)
    by_cases hknown : upper p.valueType ∈ ValueType.declarable
    · rw [if_neg (by simp [hleaves, hknown])] at hescaped
      have hsettled : p.Settled := ⟨fun hl => absurd hl hleaves, fun hu => absurd hu hunknown,
        fun _ hn => absurd hknown hn⟩
      refine iff_of_true ?_ hsettled
      by_cases ht : p.valueType = ValueType.text
      · have hlist : ValueType.isList p.name = false := by
          by_contra hl
          have hof := ValueType.ofName_of_isList (by simpa using hl)
          exact hleaves (.inl (ht.trans hof.symm))
        rw [valueText_of_escaped hlist (by simp [hescaped, ht]), if_pos (htype.trans ht)]
        exact escape_unescape_valueText hlist hvalue ht
      · exact valueText_of_verbatim (by simp [hescaped, ht]) (htype ▸ ht)
    · rw [if_pos (.inr hknown)] at hescaped
      have ht : p.valueType ≠ ValueType.text := fun ht => hknown (by rw [ht]; decide)
      cases htext : ValueType.isTextName p.name with
      | true =>
        have hlist := ValueType.isList_of_isTextName htext
        rw [valueText_of_escaped hlist (hescaped.trans htext), if_neg (htype ▸ ht)]
        exact ⟨fun hback => ⟨fun hl => absurd hl hleaves, fun hu => absurd hu hunknown,
          fun _ _ _ => hback⟩, fun hs => hs.undeclarable hleaves hknown htext⟩
      | false =>
        have hback := valueText_of_verbatim (hescaped.trans htext) (htype ▸ ht)
        exact iff_of_true hback ⟨fun hl => absurd hl hleaves, fun hu => absurd hu hunknown,
          by simp [htext]⟩

/-- Reading a content line and writing it again gives the same line exactly for properties that are
settled. -/
theorem contentLine_toProperty_raw_iff (h : p.Regular)
    (hvalue : ValueType.isList p.name = false → ∃ v, p.values = [v]) :
    p.raw.toProperty.contentLine = p.contentLine ↔ p.Settled := by
  have hname := h.name_toProperty_raw
  have htype : typeParams p.name p.raw.valueType = typeParams p.name p.valueType := by
    rw [h.valueType_raw]
    split
    · rename_i hleaves
      rw [typeParams_of_leavesType hleaves]
      simp [typeParams]
    · rfl
  have hparams : p.raw.toProperty.writtenParams = p.writtenParams := by
    rw [writtenParams, writtenParams, h.params_toProperty_raw, hname]
    exact congrArg _ htype
  have hline := contentLine_eq (p := p.raw.toProperty) (hname ▸ h.name)
  rw [hline, contentLine_eq h.name, hname, hparams, lineText, lineText]
  simpa using valueText_toProperty_raw_eq_iff h hvalue

/-- A property that is found again and written again as it was: its content line can tell it, holds
nothing that looks like a cut, and has its escapes in place. -/
structure Stable (p : Property) : Prop where
  sound : p.Sound
  foldFree : FoldFree p.contentLine
  settled : p.Settled

instance (p : Property) : Decidable p.Stable :=
  decidable_of_iff (p.Sound ∧ FoldFree p.contentLine ∧ p.Settled)
    ⟨fun ⟨hs, hf, ht⟩ => ⟨hs, hf, ht⟩, fun ⟨hs, hf, ht⟩ => ⟨hs, hf, ht⟩⟩

theorem contentLine_reread {raw : RawProperty} (hraw : raw.Found) (h : raw.toProperty.Stable) :
    raw.toProperty.reread.contentLine = raw.toProperty.contentLine := by
  have hlegible := legible_of_found hraw h.sound
  rw [reread, hlegible.found_eq_raw h.foldFree]
  exact (contentLine_toProperty_raw_iff hraw.regular RawProperty.exists_value).mpr h.settled

end Property

namespace Component

/-- Documents depend on the content lines of properties alone. -/
theorem write_mapProperties {f : Property → Property} {c : Component}
    (h : c.Throughout fun d => ∀ p ∈ d.properties, (f p).contentLine = p.contentLine) :
    (c.mapProperties f).write = c.write := by
  induction c using tree_induction with
  | step name properties components ih =>
    have hproperties : properties.flatMap (fun p => foldLine (f p).contentLine) =
        properties.flatMap fun p => foldLine p.contentLine :=
      List.flatMap_congr fun p hp => by rw [h.here p hp]
    have hcomponents : components.flatMap (fun d => (d.mapProperties f).write) =
        components.flatMap write :=
      List.flatMap_congr fun d hd => ih d hd (h.within d hd)
    rw [mapProperties, mapPropertiesAll_eq_map, write, write, writeAll_eq_flatMap,
      writeAll_eq_flatMap, List.flatMap_map, List.flatMap_map, hproperties, hcomponents]

end Component

namespace Document

/-- The document of a calendar that was read from any text, all of whose properties are stable, is
read again as a calendar with the same document. -/
theorem exists_toText_eq_of_read {text : String} {c : Component} (hread : read text = .ok c)
    (h : c.Throughout fun d => ∀ p ∈ d.properties, p.Stable) :
    ∃ c', read c.toText = .ok c' ∧ c'.toText = c.toText := by
  obtain ⟨hname, hfound⟩ := found_of_read hread
  have hsound : c.Throughout fun d => ∀ p ∈ d.properties, p.Sound :=
    h.imp fun d hd p hp => (hd p hp).sound
  have hwrite : c.reread.write = c.write := by
    refine Component.write_mapProperties ((hfound.and h).imp fun d hd p hp => ?_)
    obtain ⟨raw, hraw, rfl⟩ := hd.1.2 p hp
    exact Property.contentLine_reread hraw (hd.2 _ hp)
  refine ⟨c.reread, read_toText (Component.legible_of_found hfound hsound) hname, ?_⟩
  rw [Component.toText, hwrite, Component.toText]

/-- A calendar with a name in lower case, text in a property of another type, text of a type that
nobody knows, and a list. -/
def menuText : String :=
  "BEGIN:VCALENDAR\r\nsummary:tea\\, milk\r\nURL;VALUE=TEXT:a\\\\b\r\n" ++
  "UID;VALUE=X-ID:a\\nb\r\nCATEGORIES:a,b\r\nEND:VCALENDAR\r\n"

def menu : Component where
  name := "VCALENDAR"
  properties := [
    { name := "SUMMARY", valueType := "unknown", values := ["tea\\, milk"] },
    { name := "URL", values := ["a\\b"] },
    { name := "UID", valueType := "x-id", values := ["a\nb"] },
    { name := "CATEGORIES", values := ["a", "b"] }]

theorem read_menuText : read menuText = .ok menu := by decide +kernel

theorem stable_menu : menu.Throughout fun d => ∀ p ∈ d.properties, p.Stable :=
  .intro (by decide +kernel) (by simp [menu])

theorem exists_toText_eq_menu : read menuText = .ok menu ∧
    (menu.Throughout fun d => ∀ p ∈ d.properties, p.Stable) ∧
    ∃ c', read menu.toText = .ok c' ∧ c'.toText = menu.toText :=
  ⟨read_menuText, stable_menu, exists_toText_eq_of_read read_menuText stable_menu⟩

/-- A calendar whose one category holds an escaped semicolon. -/
def taggedText : String := "BEGIN:VCALENDAR\r\nCATEGORIES:a\\;b\r\nEND:VCALENDAR\r\n"

/-- A calendar with one category. -/
def tagged (category : String) : Component where
  name := "VCALENDAR"
  properties := [{ name := "CATEGORIES", values := [category] }]

/-- Every time that a document is read and written, a category gets more backslashes. -/
theorem not_forall_exists_toText_eq :
    ¬ ∀ (text : String) (c : Component), read text = .ok c →
      ∃ c', read c.toText = .ok c' ∧ c'.toText = c.toText := by
  intro h
  obtain ⟨c', hread, htext⟩ := h taggedText (tagged "a\\;b") (by decide +kernel)
  have hnext : read (tagged "a\\;b").toText = .ok (tagged "a\\\\\\;b") := by decide +kernel
  have hchanged : (tagged "a\\\\\\;b").toText ≠ (tagged "a\\;b").toText := by decide +kernel
  rw [hnext] at hread
  obtain rfl := Except.ok.inj hread
  exact hchanged htext

end Document

end CalendarRelay
