import CalendarRelay.Proofs.Folding
import CalendarRelay.Proofs.Parameter

namespace CalendarRelay

open Text Document Folding

namespace Text

theorem afterWord?_append (a b cs : List Char) :
    afterWord? (a ++ b) cs = (afterWord? a cs).bind (afterWord? b) := by
  induction a generalizing cs with
  | nil => rfl
  | cons m a ih =>
    cases cs with
    | nil => rfl
    | cons c cs =>
      simp only [List.cons_append, afterWord?]
      split
      · exact ih cs
      · rfl

theorem afterWord?_eq_some {word cs rest : List Char} (h : afterWord? word cs = some rest) :
    ∃ run, cs = run ++ rest ∧ run.map Char.toLower = word.map Char.toLower := by
  induction word generalizing cs with
  | nil => exact ⟨[], by simpa [afterWord?] using h, rfl⟩
  | cons m word ih =>
    cases cs with
    | nil => simp [afterWord?] at h
    | cons c cs =>
      simp only [afterWord?] at h
      split at h
      · rename_i hc
        obtain ⟨run, hcs, hrun⟩ := ih h
        exact ⟨c :: run, by simp [hcs], by simp [hrun, hc]⟩
      · simp at h

theorem afterWord?_self (word rest : List Char) : afterWord? word (word ++ rest) = some rest := by
  induction word with
  | nil => rfl
  | cons m word ih => simpa [afterWord?] using ih

/-- A line end is found at the end of a text that holds none. -/
theorem cutAt?_append {v : List Char} (hv : BreakFree v) (rest : List Char) :
    cutAt? ['\r', '\n'] (v ++ '\r' :: '\n' :: rest) = some (v, rest) := by
  induction v with
  | nil => rfl
  | cons c v ih =>
    have hnone : afterMark? ['\r', '\n'] (c :: (v ++ '\r' :: '\n' :: rest)) = none := by
      by_contra hsome
      obtain ⟨after, hafter⟩ := Option.ne_none_iff_exists'.mp hsome
      have hmark := afterMark?_eq_some_iff.mp hafter
      cases v with
      | nil => simp at hmark
      | cons d v =>
        obtain ⟨hc, hd, -⟩ : c = '\r' ∧ d = '\n' ∧ _ := by simpa using hmark
        exact (List.isChain_cons_cons.mp hv).1 ⟨hc, hd⟩
    rw [List.cons_append, cutAt?, hnone, ih hv.tail]
    rfl

end Text

namespace Document

/-- What opens or closes a component is reserved. -/
theorem isReserved_of_afterWord? {word cs rest : List Char}
    (hw : word = "BEGIN".toList ∨ word = "END".toList)
    (h : afterWord? (word ++ [':']) cs = some rest) : isReserved cs = true := by
  rw [afterWord?_append] at h
  obtain ⟨after, ha, hb⟩ := Option.bind_eq_some_iff.mp h
  obtain ⟨run, rfl, hrun⟩ := afterWord?_eq_some hb
  obtain ⟨c, rfl, hc⟩ := List.map_eq_singleton_iff.mp hrun
  have hcolon : c = ':' := eq_of_toLower (by decide) hc
  subst hcolon
  rcases hw with rfl | rfl <;> simp only [isReserved, ha] <;> simp [endsName]

theorem isSpace_eq_false_of_isKeyChar {c : Char} (h : isKeyChar c = true) : isSpace c = false := by
  by_contra hs
  have hs : ((c = ' ' ∨ c = '\t') ∨ c = '\r') ∨ c = '\n' := by
    simpa only [isSpace, isTab, Bool.not_eq_false, Bool.or_eq_true, beq_iff_eq] using hs
  rcases hs with ((rfl | rfl) | rfl) | rfl <;> revert h <;> decide

theorem isSeparator_eq_false_of_isKeyChar {c : Char} (h : isKeyChar c = true) :
    isSeparator c = false := by
  by_contra hs
  rcases isSeparator_iff.mp (by simpa using hs) with rfl | rfl <;> revert h <;> decide

/-- A character of a name or key ends no value of a parameter, and begins no quoted one. -/
theorem bare_of_isKeyChar {c : Char} (h : isKeyChar c = true) :
    c ≠ '"' ∧ isSeparator c = false := by
  refine ⟨?_, isSeparator_eq_false_of_isKeyChar h⟩
  rintro rfl
  revert h
  decide

/-- A character of a name or key neither ends a line nor goes on with one. -/
theorem isVisible_of_isKeyChar {c : Char} (h : isKeyChar c = true) :
    isLineEnd c = false ∧ isIndent c = false := by
  have hs := isSpace_eq_false_of_isKeyChar h
  simp only [isSpace, isTab, Bool.or_eq_false_iff] at hs
  exact ⟨by simp [isLineEnd, hs], by simp [isIndent, hs]⟩

theorem feed_not_mem_of_isKeyChar {cs : List Char} (h : ∀ c ∈ cs, isKeyChar c = true) :
    '\n' ∉ cs := by
  intro hn
  have hkey := h _ hn
  revert hkey
  decide

theorem foldFree_of_isKeyChar {cs : List Char} (h : ∀ c ∈ cs, isKeyChar c = true) :
    FoldFree cs :=
  foldFree_of_not_mem (feed_not_mem_of_isKeyChar h)

/-- A name or key as the reader gives it. -/
structure IsName (name : String) : Prop where
  upper_eq : upper name = name
  chars : ∀ c ∈ name.toList, isKeyChar c = true

theorem isName_of_isCapitalWord {name : String} (h : isCapitalWord name.toList = true) :
    IsName name :=
  ⟨upper_of_isCapitalWord h, isKeyChar_of_isCapitalWord h⟩

theorem IsName.map_toUpper {name : String} (h : IsName name) :
    name.toList.map Char.toUpper = name.toList := by
  rw [← toList_upper, h.upper_eq]

/-- A word that is found at the start of a line is the name there up to case, if the name ends
after it. -/
theorem eq_of_endsName {name word rest after : List Char} (hname : ∀ c ∈ name, isKeyChar c = true)
    (hword : ∀ c ∈ word, isKeyChar c = true) (hrest : endsParam rest = true)
    (h : afterWord? word (name ++ rest) = some after) (hafter : endsName (some after) = true) :
    name.map Char.toLower = word.map Char.toLower := by
  obtain ⟨run, hcs, hrun⟩ := afterWord?_eq_some h
  -- no character of the run separates, so that the name and the run end at the same place
  have hfree : ∀ c ∈ run, isSeparator c = false := by
    intro c hc
    have hmem : c.toLower ∈ word.map Char.toLower := hrun ▸ List.mem_map_of_mem hc
    obtain ⟨d, hd, hdc⟩ := List.mem_map.mp hmem
    rw [← isSeparator_toLower, ← hdc, isSeparator_toLower]
    exact isSeparator_eq_false_of_isKeyChar (hword d hd)
  have hnamefree : ∀ c ∈ name, isSeparator c = false := fun c hc =>
    isSeparator_eq_false_of_isKeyChar (hname c hc)
  have hstop : rest.head?.all (fun c => !!isSeparator c) = true := by
    obtain ⟨cs, rfl | rfl⟩ := endsParam_iff.mp hrest <;> rfl
  have hstop' : after.head?.all (fun c => !!isSeparator c) = true := by
    cases after with
    | nil => rfl
    | cons c cs => simpa [endsName, isSeparator, or_comm] using hafter
  have htake := (while_append (p := (!isSeparator ·)) (by simpa using hnamefree) hstop).1
  have htake' := (while_append (p := (!isSeparator ·)) (by simpa using hfree) hstop').1
  have hsame : name = run := by rw [← htake, hcs, htake']
  rw [hsame, hrun]

/-- A name that is not reserved does not become so by what follows it. -/
theorem isReserved_append {name rest : List Char} (hname : ∀ c ∈ name, isKeyChar c = true)
    (hbegin : name.map Char.toUpper ≠ "BEGIN".toList)
    (hend : name.map Char.toUpper ≠ "END".toList)
    (hrest : endsParam rest = true) : isReserved (name ++ rest) = false := by
  have hnot (word : List Char) (hword : isCapitalWord word = true)
      (hne : name.map Char.toUpper ≠ word) : endsName (afterWord? word (name ++ rest)) = false := by
    by_contra hn
    have hn : endsName (afterWord? word (name ++ rest)) = true := by simpa using hn
    cases hw : afterWord? word (name ++ rest) with
    | none => simp [hw, endsName] at hn
    | some after =>
      have hlower := eq_of_endsName hname (isKeyChar_of_isCapitalWord hword) hrest hw (hw ▸ hn)
      have hupper := congrArg (List.map Char.toUpper) hlower
      simp only [List.map_map, Function.comp_def, Char.toUpper_toLower_eq_toUpper] at hupper
      exact hne (hupper.trans (map_toUpper_of_isCapitalWord hword))
  rw [isReserved, hnot _ (by decide) hbegin, hnot _ (by decide) hend]
  rfl

theorem readValue_append {v : List Char} (hv : BreakFree v) (rest : List Char) :
    readValue (v ++ '\r' :: '\n' :: rest) = (v, rest) := by
  rw [readValue, cutAt?_append hv]

/-- A line that is read as the given property, whatever comes after its end. -/
structure ReadsAs (line : List Char) (raw : RawProperty) : Prop where
  isLine : IsLine line
  unreserved : ∀ rest, isReserved (line ++ rest) = false
  read : ∀ rest, readLine? (line ++ '\r' :: '\n' :: rest) = some (raw, rest)

theorem ReadsAs.readProperty? {line : List Char} {raw : RawProperty} (h : ReadsAs line raw)
    (rest : List Char) :
    readProperty? (line ++ '\r' :: '\n' :: rest) = some (raw, rest) := by
  have hstart : (line ++ '\r' :: '\n' :: rest).dropWhile isSpace =
      line ++ '\r' :: '\n' :: rest := by
    obtain ⟨c, cs, rfl, hend, hblank⟩ := h.isLine
    have hspace : isSpace c = false := by
      simp only [isLineEnd, isIndent, Bool.or_eq_false_iff] at hend hblank
      simp [isSpace, isTab, hend, hblank]
    simp [hspace]
  rw [Document.readProperty?, hstart, h.unreserved, h.read]
  rfl

/-- The parameters of a content line, each after a semicolon. -/
def paramsText (params : List (List Char × List Char)) : List Char :=
  params.flatMap fun q => ';' :: q.1 ++ '=' :: q.2

/-- A content line of the given parts, the values of parameters as they are written. -/
def lineText (name : List Char) (params : List (List Char × List Char)) (value : List Char) :
    List Char :=
  name ++ (paramsText params ++ ':' :: value)

theorem mem_lineText {name value : List Char} {params : List (List Char × List Char)} {c : Char}
    (h : c ∈ lineText name params value) : c ∈ name ∨ c = ':' ∨ c ∈ value ∨
      ∃ q ∈ params, c = ';' ∨ c ∈ q.1 ∨ c = '=' ∨ c ∈ q.2 := by
  simp only [lineText, paramsText, List.mem_append, List.mem_flatMap, List.mem_cons] at h
  rcases h with h | ⟨q, hq, (h | h) | h | h⟩ | h | h
  · exact .inl h
  · exact .inr (.inr (.inr ⟨q, hq, .inl h⟩))
  · exact .inr (.inr (.inr ⟨q, hq, .inr (.inl h)⟩))
  · exact .inr (.inr (.inr ⟨q, hq, .inr (.inr (.inl h))⟩))
  · exact .inr (.inr (.inr ⟨q, hq, .inr (.inr (.inr h))⟩))
  · exact .inr (.inl h)
  · exact .inr (.inr (.inl h))

theorem endsParam_paramsText (params : List (List Char × List Char)) (value : List Char) :
    endsParam (paramsText params ++ ':' :: value) = true := by
  cases params with
  | nil => rfl
  | cons q params => rfl

theorem isLine_of_endsParam {cs : List Char} (h : endsParam cs = true) : IsLine cs := by
  obtain ⟨rest, rfl | rfl⟩ := endsParam_iff.mp h
  · exact ⟨_, _, rfl, rfl, rfl⟩
  · exact ⟨_, _, rfl, rfl, rfl⟩

theorem isLine_lineText {name : List Char} (hname : ∀ c ∈ name, isKeyChar c = true)
    (params : List (List Char × List Char)) (value : List Char) :
    IsLine (lineText name params value) := by
  cases name with
  | nil => exact isLine_of_endsParam (endsParam_paramsText params value)
  | cons c name => exact ⟨c, _, rfl, isVisible_of_isKeyChar (hname c (by simp))⟩

/-- What is written for a parameter is read as a parameter of the same key. -/
def ParamStandsFor (written read : List Char × List Char) : Prop :=
  written.1 = read.1 ∧ (∀ c ∈ read.1, isKeyChar c = true) ∧ StandsFor written.2 read.2

theorem readParams_paramsText {written read : List (List Char × List Char)}
    (h : List.Forall₂ ParamStandsFor written read) (value : List Char) :
    readParams (paramsText written ++ ':' :: value) = (read, ':' :: value) := by
  induction h with
  | nil => exact readParams_value value
  | @cons w r written read hq _ ih =>
    obtain ⟨hkey, hchars, hstands⟩ := hq
    have hcons := readParams_cons hchars hstands (endsParam_paramsText written value)
    rw [ih] at hcons
    simpa [paramsText, hkey] using hcons

/-- The reader finds in a content line the parts that it was written from. -/
theorem readsAs_lineText {name value : List Char} {written read : List (List Char × List Char)}
    (hname : ∀ c ∈ name, isKeyChar c = true) (hbegin : name.map Char.toUpper ≠ "BEGIN".toList)
    (hend : name.map Char.toUpper ≠ "END".toList)
    (hparams : List.Forall₂ ParamStandsFor written read) (hvalue : BreakFree value) :
    ReadsAs (lineText name written value) ⟨name, read, value⟩ where
  isLine := isLine_lineText hname written value
  unreserved := by
    intro rest
    have hends : endsParam (paramsText written ++ ':' :: value ++ rest) = true := by
      rw [List.append_assoc]
      exact endsParam_paramsText written (value ++ rest)
    rw [lineText, List.append_assoc]
    exact isReserved_append hname hbegin hend hends
  read := by
    intro rest
    have hparams := readParams_paramsText hparams (value ++ '\r' :: '\n' :: rest)
    have hends := endsParam_paramsText written (value ++ '\r' :: '\n' :: rest)
    have hkey := readKey_append hname (endsKey_of_endsParam hends)
    have hline : lineText name written value ++ '\r' :: '\n' :: rest =
        name ++ (paramsText written ++ ':' :: (value ++ '\r' :: '\n' :: rest)) := by
      simp [lineText]
    rw [hline, readLine?, hkey]
    simp only [hparams, readValue_append hvalue]

def ParamJoinsTo (written joined : List Char × List Char) : Prop :=
  written.1 = joined.1 ∧ JoinsTo written.2 joined.2

theorem joined_paramsText {value tail : List Char} {params : List (List Char × List Char)}
    (hkeys : ∀ q ∈ params, ∀ c ∈ q.1, isKeyChar c = true)
    (h : JoinsTo (paramsText params ++ ':' :: value) tail) : ∃ params' value',
      tail = paramsText params' ++ ':' :: value' ∧
        List.Forall₂ ParamJoinsTo params params' ∧ JoinsTo value value' := by
  induction params generalizing tail with
  | nil =>
    obtain ⟨value', rfl, hvalue⟩ := h.cons_inv rfl
    exact ⟨[], value', rfl, .nil, hvalue⟩
  | cons q params ih =>
    obtain ⟨key, written⟩ := q
    have hkey : ∀ c ∈ key, isKeyChar c = true := hkeys (key, written) (by simp)
    have hrest := isLine_of_endsParam (endsParam_paramsText params value)
    have hshape : paramsText ((key, written) :: params) ++ ':' :: value =
        ';' :: (key ++ '=' :: (written ++ (paramsText params ++ ':' :: value))) := by
      simp [paramsText]
    rw [hshape] at h
    obtain ⟨_, rfl, hparam⟩ := h.cons_inv rfl
    obtain ⟨key', _, rfl, hk, hequals⟩ := hparam.append_inv ⟨'=', _, rfl, rfl, rfl⟩
    obtain ⟨_, rfl, hwritten⟩ := hequals.cons_inv rfl
    obtain ⟨written', tail, rfl, hw, hmore⟩ := hwritten.append_inv hrest
    obtain ⟨params', value', rfl, hparams, hvalue⟩ :=
      ih (fun q hq => hkeys q (List.mem_cons_of_mem _ hq)) hmore
    refine ⟨(key, written') :: params', value', ?_, .cons ⟨rfl, hw⟩ hparams, hvalue⟩
    rw [hk.eq_of_foldFree (foldFree_of_isKeyChar hkey)]
    simp [paramsText]

/-- Joining works on each part of a content line by itself. -/
theorem joined_lineText {name value line : List Char} {params : List (List Char × List Char)}
    (hname : ∀ c ∈ name, isKeyChar c = true)
    (hkeys : ∀ q ∈ params, ∀ c ∈ q.1, isKeyChar c = true)
    (h : JoinsTo (lineText name params value) line) : ∃ params' value',
      line = lineText name params' value' ∧
        List.Forall₂ ParamJoinsTo params params' ∧ JoinsTo value value' := by
  have hstart := isLine_of_endsParam (endsParam_paramsText params value)
  obtain ⟨name', tail, rfl, hn, htail⟩ := h.append_inv hstart
  obtain ⟨params', value', rfl, hparams, hvalue⟩ := joined_paramsText hkeys htail
  rw [hn.eq_of_foldFree (foldFree_of_isKeyChar hname)]
  exact ⟨params', value', rfl, hparams, hvalue⟩

end Document

namespace Property

/-- The value of a parameter as it is written. -/
def writtenParam (v : List Char) : List Char :=
  if !isQuoted v && v.any fun c => c == ':' || c == ';' || c == ',' then '"' :: v ++ ['"'] else v

theorem mem_writtenParam {c : Char} {v : List Char} (h : c ∈ writtenParam v) : c = '"' ∨ c ∈ v := by
  rw [writtenParam] at h
  split at h
  · simpa [or_comm] using h
  · exact .inr h

/-- The parameter that names the type of the values, as a list of at most one. -/
def typeParams (name valueType : String) : List (List Char × List Char) :=
  if valueType = ValueType.ofName name ∨ valueType = ValueType.unknown then []
  else [("VALUE".toList, (upper valueType).toList)]

theorem isTypeKey_of_mem_typeParams {name valueType : String} {q : List Char × List Char}
    (hq : q ∈ typeParams name valueType) : isTypeKey q.1 = true := by
  rw [typeParams] at hq
  split at hq
  · simp at hq
  · rw [List.mem_singleton.mp hq, isTypeKey, String.ofList_toList]
    decide

/-- The parameters of the content line of a property, their values as they are written. -/
def writtenParams (p : Property) : List (List Char × List Char) :=
  p.params.map (fun q => (q.1.toList, writtenParam q.2.toList)) ++ typeParams p.name p.valueType

/-- What a property is read as when joining leaves its content line as it is. -/
def raw (p : Property) : RawProperty where
  name := p.name.toList
  params := p.params.map (fun q => (q.1.toList, q.2.toList)) ++ typeParams p.name p.valueType
  value := p.valueText

theorem contentLine_eq {p : Property} (h : IsName p.name) :
    p.contentLine = lineText p.name.toList p.writtenParams p.valueText := by
  have htype : typeText p.name p.valueType = paramsText (typeParams p.name p.valueType) := by
    rw [typeText, typeParams]
    split <;> simp [paramsText]
  have hparams : p.params.flatMap (fun q => paramText q.1 q.2) =
      paramsText (p.params.map fun q => (q.1.toList, writtenParam q.2.toList)) := by
    rw [paramsText, List.flatMap_map]
    rfl
  rw [contentLine, h.upper_eq, htype, hparams, lineText, writtenParams, paramsText, paramsText,
    paramsText, List.flatMap_append]
  simp

/-- A parameter that is read as it is written, and as a parameter of the same key when joining
takes parts of it out. -/
structure LegibleParam (key value : String) : Prop where
  key_chars : ∀ c ∈ key.toList, isKeyChar c = true
  stands : StandsFor (writtenParam value.toList) value.toList
  joined : ∀ j, JoinsTo (writtenParam value.toList) j → ∃ v, StandsFor j v

/-- A property whose content line is read as one property of its name. -/
structure Legible (p : Property) : Prop where
  name : IsName p.name
  ne_begin : p.name ≠ "BEGIN"
  ne_end : p.name ≠ "END"
  params : ∀ q ∈ p.params, LegibleParam q.1 q.2
  type_bare : ∀ c ∈ (upper p.valueType).toList, c ≠ '"' ∧ isSeparator c = false
  breakFree : BreakFree p.valueText

theorem isQuoted_eq_false {v : List Char} (h : '"' ∉ v) : isQuoted v = false := by
  cases v with
  | nil => rfl
  | cons c v =>
    have hc : c ≠ '"' := by rintro rfl; simp at h
    simp [isQuoted, hc]

theorem standsFor_of_bare {v : List Char} (h : ∀ c ∈ v, c ≠ '"' ∧ isSeparator c = false) :
    StandsFor v v :=
  standsFor_bare (fun hq => (h _ (List.mem_of_mem_head? hq)).1 rfl) fun c hc => (h c hc).2

/-- A value without quotes is read from what is written for it. -/
theorem legibleParam_of_not_mem {key value : String} (hkey : ∀ c ∈ key.toList, isKeyChar c = true)
    (hquote : '"' ∉ value.toList) : LegibleParam key value := by
  have hnotquoted := isQuoted_eq_false hquote
  cases hany : value.toList.any fun c => c == ':' || c == ';' || c == ',' with
  | true =>
    have hwritten : writtenParam value.toList = '"' :: value.toList ++ ['"'] := by
      simp [writtenParam, hnotquoted, hany]
    obtain ⟨c, hc, hsep⟩ := List.any_eq_true.mp hany
    refine ⟨hkey, ?_, fun j hj => ?_⟩
    · rw [hwritten]
      exact standsFor_quoted (List.ne_nil_of_mem hc) hquote
    · rw [hwritten, List.cons_append] at hj
      obtain ⟨j, rfl, htail⟩ := hj.cons_inv rfl
      obtain ⟨v, last, rfl, hv, hlast⟩ := htail.append_inv ⟨'"', [], rfl, rfl, rfl⟩
      have hkept : c ∈ v := by
        rcases (by simpa using hsep : (c = ':' ∨ c = ';') ∨ c = ',') with (rfl | rfl) | rfl
        · exact hv.mem_of_visible rfl rfl hc
        · exact hv.mem_of_visible rfl rfl hc
        · exact hv.mem_of_visible rfl rfl hc
      rw [hlast.eq_of_foldFree (by decide)]
      exact ⟨v, standsFor_quoted (List.ne_nil_of_mem hkept) fun hq => hquote (hv.mem_of_mem hq)⟩
  | false =>
    have hwritten : writtenParam value.toList = value.toList := by simp [writtenParam, hany]
    have hbare : ∀ c ∈ value.toList, c ≠ '"' ∧ isSeparator c = false := by
      intro c hc
      refine ⟨fun he => hquote (he ▸ hc), ?_⟩
      have hsep := List.any_eq_false.mp hany c hc
      simp only [Bool.not_eq_true, Bool.or_eq_false_iff] at hsep
      simp [isSeparator, hsep]
    refine ⟨hkey, ?_, fun j hj => ⟨j, ?_⟩⟩
    · rw [hwritten]
      exact standsFor_of_bare hbare
    · rw [hwritten] at hj
      exact standsFor_of_bare fun c hc => hbare c (hj.mem_of_mem hc)

/-- A value that is written as it is and read back, in which nothing looks like a cut. -/
theorem legibleParam_of_foldFree {key value : String}
    (hkey : ∀ c ∈ key.toList, isKeyChar c = true) (hfree : FoldFree value.toList)
    (hwritten : writtenParam value.toList = value.toList)
    (hstands : StandsFor value.toList value.toList) : LegibleParam key value := by
  refine ⟨hkey, ?_, fun j hj => ⟨value.toList, ?_⟩⟩
  · rwa [hwritten]
  · rw [hwritten] at hj
    rwa [hj.eq_of_foldFree hfree]

namespace Legible

variable {p : Property} (h : p.Legible)
include h

theorem isKeyChar_of_mem_typeParams {q : List Char × List Char}
    (hq : q ∈ typeParams p.name p.valueType) :
    (∀ c ∈ q.1, isKeyChar c = true) ∧ ∀ c ∈ q.2, c ≠ '"' ∧ isSeparator c = false := by
  rw [typeParams] at hq
  split at hq
  · simp at hq
  · have hword : isCapitalWord "VALUE".toList = true := by decide
    rw [List.mem_singleton.mp hq]
    exact ⟨isKeyChar_of_isCapitalWord hword, h.type_bare⟩

/-- What is written for the parameters is read as the parameters. -/
theorem stands : List.Forall₂ ParamStandsFor p.writtenParams p.raw.params := by
  have hown : List.Forall₂ ParamStandsFor
      (p.params.map fun q => (q.1.toList, writtenParam q.2.toList))
      (p.params.map fun q => (q.1.toList, q.2.toList)) := by
    rw [List.forall₂_map_left_iff, List.forall₂_map_right_iff, List.forall₂_same]
    exact fun q hq => ⟨rfl, (h.params q hq).key_chars, (h.params q hq).stands⟩
  have htype : List.Forall₂ ParamStandsFor (typeParams p.name p.valueType)
      (typeParams p.name p.valueType) := by
    rw [List.forall₂_same]
    intro q hq
    obtain ⟨hkey, hbare⟩ := h.isKeyChar_of_mem_typeParams hq
    exact ⟨rfl, hkey, standsFor_of_bare hbare⟩
  exact List.rel_append hown htype

theorem joined {q : List Char × List Char} (hq : q ∈ p.writtenParams) :
    (∀ c ∈ q.1, isKeyChar c = true) ∧ ∀ j, JoinsTo q.2 j → ∃ v, StandsFor j v := by
  rcases List.mem_append.mp hq with hq | hq
  · obtain ⟨r, hr, rfl⟩ := List.mem_map.mp hq
    exact ⟨(h.params r hr).key_chars, (h.params r hr).joined⟩
  · obtain ⟨hkey, hbare⟩ := h.isKeyChar_of_mem_typeParams hq
    exact ⟨hkey, fun j hj => ⟨j, standsFor_of_bare fun c hc => hbare c (hj.mem_of_mem hc)⟩⟩

theorem name_ne : p.name.toList.map Char.toUpper ≠ "BEGIN".toList ∧
    p.name.toList.map Char.toUpper ≠ "END".toList := by
  rw [h.name.map_toUpper]
  exact ⟨fun he => h.ne_begin (String.toList_inj.mp he),
    fun he => h.ne_end (String.toList_inj.mp he)⟩

theorem isLine : IsLine p.contentLine := by
  rw [contentLine_eq h.name]
  exact isLine_lineText h.name.chars _ _

/-- A content line that joining leaves as it is says what the property holds. -/
theorem readsAs_raw : ReadsAs p.contentLine p.raw := by
  rw [contentLine_eq h.name]
  exact readsAs_lineText h.name.chars h.name_ne.1 h.name_ne.2 h.stands h.breakFree

end Legible

/-- Whatever joining leaves of the parameters is read as parameters of the same keys. -/
theorem exists_forall₂_standsFor {written joined : List (List Char × List Char)}
    (h : ∀ q ∈ written, (∀ c ∈ q.1, isKeyChar c = true) ∧ ∀ j, JoinsTo q.2 j → ∃ v, StandsFor j v)
    (hjoined : List.Forall₂ ParamJoinsTo written joined) :
    ∃ read, List.Forall₂ ParamStandsFor joined read ∧
      read.map Prod.fst = written.map Prod.fst := by
  induction hjoined with
  | nil => exact ⟨[], .nil, rfl⟩
  | @cons w j written joined hq _ ih =>
    obtain ⟨hkey, hstands⟩ := h w (by simp)
    obtain ⟨v, hv⟩ := hstands j.2 hq.2
    obtain ⟨read, hread, hkeys⟩ := ih fun q hq => h q (List.mem_cons_of_mem _ hq)
    exact ⟨(w.1, v) :: read, .cons ⟨hq.1.symm, hkey, hv⟩ hread, by simp [hkeys]⟩

/-- The content line as it is found again is read as one property of the same name and keys. -/
theorem Legible.exists_readsAs {p : Property} (h : p.Legible) :
    ∃ raw, ReadsAs (rejoin p.contentLine) raw ∧ raw.name = p.name.toList ∧
      raw.params.map Prod.fst = p.writtenParams.map Prod.fst := by
  have hjoins := (foundAs_rejoin p.contentLine).joins
  rw [contentLine_eq h.name] at hjoins ⊢
  obtain ⟨params, value, hline, hparams, hvalue⟩ :=
    joined_lineText h.name.chars (fun q hq => (h.joined hq).1) hjoins
  obtain ⟨read, hread, hkeys⟩ := exists_forall₂_standsFor (fun q hq => h.joined hq) hparams
  rw [hline]
  exact ⟨_, readsAs_lineText h.name.chars h.name_ne.1 h.name_ne.2 hread
    (hvalue.breakFree h.breakFree), rfl, hkeys⟩

/-- What a property is read as from its content line as it is found again. -/
def found (p : Property) : RawProperty :=
  match readLine? (rejoin p.contentLine ++ ['\r', '\n']) with
  | some (raw, _) => raw
  | none => { name := [] }

def reread (p : Property) : Property := p.found.toProperty

theorem found_of_readsAs {p : Property} {raw : RawProperty}
    (h : ReadsAs (rejoin p.contentLine) raw) : p.found = raw := by
  rw [found, h.read []]

namespace Legible

variable {p : Property} (h : p.Legible)
include h

theorem readsAs_found : ReadsAs (rejoin p.contentLine) p.found := by
  obtain ⟨raw, hraw, -⟩ := h.exists_readsAs
  rwa [found_of_readsAs hraw]

theorem name_found : p.found.name = p.name.toList := by
  obtain ⟨raw, hraw, hname, -⟩ := h.exists_readsAs
  rwa [found_of_readsAs hraw]

theorem keys_found : p.found.params.map Prod.fst = p.writtenParams.map Prod.fst := by
  obtain ⟨raw, hraw, -, hkeys⟩ := h.exists_readsAs
  rwa [found_of_readsAs hraw]

theorem found_eq_raw (hfree : FoldFree p.contentLine) : p.found = p.raw := by
  refine found_of_readsAs ?_
  rw [rejoin_eq_self hfree]
  exact h.readsAs_raw

end Legible

end Property

end CalendarRelay
