import CalendarRelay.Proofs.Body
import CalendarRelay.Proofs.Rereading

namespace CalendarRelay.Document

open Text Folding

/-- Quotes around a text that holds none are all that makes a quoted text. -/
theorem readQuoted?_eq_some_iff {cs content rest : List Char} :
    readQuoted? cs = some (content, rest) ↔
      content ≠ [] ∧ '"' ∉ content ∧ cs = '"' :: content ++ '"' :: rest := by
  constructor
  · intro h
    unfold readQuoted? at h
    split at h
    · rename_i cs
      split at h
      · rename_i c content' d rest' htake hdrop
        obtain ⟨rfl, rfl⟩ : c :: content' = content ∧ rest' = rest := by simpa using h
        have hd : d = '"' := by
          have hhead := List.head?_dropWhile_not (p := (· != '"')) cs
          simpa [hdrop] using hhead
        have hcs := List.takeWhile_append_dropWhile (p := (· != '"')) (l := cs)
        refine ⟨by simp, fun hq => ?_, ?_⟩
        · have hall := List.mem_takeWhile_imp (htake ▸ hq)
          simp at hall
        · rw [← hcs, htake, hdrop, hd]
          rfl
      · simp at h
    · simp at h
  · rintro ⟨hne, hquote, rfl⟩
    exact readQuoted?_quoted hne hquote rest

theorem skipQuoted_of_readQuoted? {cs content rest : List Char}
    (h : readQuoted? cs = some (content, rest)) : skipQuoted (',' :: cs) = skipQuoted rest := by
  rw [skipQuoted]
  split
  · rename_i content' after h'
    obtain ⟨-, rfl⟩ : content' = content ∧ after = rest := by simpa [h] using h'.symm
    rfl
  · rename_i h'
    simp [h] at h'

/-- Further quoted texts are skipped in the same way whatever follows them. -/
theorem skipQuoted_spec (cs : List Char) : ∃ skipped, cs = skipped ++ skipQuoted cs ∧
    (∀ rest, skipQuoted (skipped ++ rest) = skipQuoted rest) ∧
    (skipped = [] ∨ ∃ init, skipped = init ++ ['"']) := by
  fun_induction skipQuoted cs with
  | case1 rest content after h hlen ih =>
    obtain ⟨hne, hquote, rfl⟩ := readQuoted?_eq_some_iff.mp h
    obtain ⟨skipped, hafter, hskip, hlast⟩ := ih
    refine ⟨',' :: '"' :: content ++ '"' :: skipped, ?_, fun rest => ?_, .inr ?_⟩
    · simpa using hafter
    · have hshape : ',' :: '"' :: content ++ '"' :: skipped ++ rest =
          ',' :: ('"' :: content ++ '"' :: (skipped ++ rest)) := by simp
      rw [hshape, skipQuoted_of_readQuoted? (readQuoted?_quoted hne hquote _), hskip]
    · rcases hlast with rfl | ⟨init, rfl⟩
      · exact ⟨',' :: '"' :: content, rfl⟩
      · exact ⟨',' :: '"' :: content ++ '"' :: init, by simp⟩
  | case2 rest h => exact ⟨[], rfl, fun _ => rfl, .inl rfl⟩
  | case3 cs hcs => exact ⟨[], rfl, fun _ => rfl, .inl rfl⟩

theorem isQuoted_iff {v : List Char} :
    Property.isQuoted v = true ↔ ∃ t, v = '"' :: t ++ ['"'] := by
  constructor
  · intro h
    simp only [Property.isQuoted, Bool.and_eq_true, decide_eq_true_eq, beq_iff_eq] at h
    obtain ⟨⟨hlen, hhead⟩, hlast⟩ := h
    obtain ⟨init, rfl⟩ := List.getLast?_eq_some_iff.mp hlast
    cases init with
    | nil => simp at hlen
    | cons c t =>
      obtain rfl : c = '"' := by simpa using hhead
      exact ⟨t, rfl⟩
  · rintro ⟨t, rfl⟩
    have hlast : ('"' :: t ++ ['"']).getLast? = some '"' := List.getLast?_concat
    rw [Property.isQuoted, hlast]
    simp

/-- What looks quoted but could not be read so begins with two quotes, whatever comes next. -/
theorem readQuoted?_append_eq_none {v rest : List Char} (hquoted : Property.isQuoted v = true)
    (hnone : readQuoted? (v ++ rest) = none) (rest' : List Char) :
    readQuoted? (v ++ rest') = none := by
  obtain ⟨t, rfl⟩ := isQuoted_iff.mp hquoted
  have hmem : '"' ∈ t ++ ['"'] := by simp
  obtain ⟨content, after, ht, hquote⟩ := List.eq_append_cons_of_mem hmem
  have hshape (rest : List Char) :
      '"' :: t ++ ['"'] ++ rest = '"' :: content ++ '"' :: (after ++ rest) := by
    rw [List.cons_append, ht]
    simp
  have hempty : content = [] := by
    by_contra hne
    rw [hshape, readQuoted?_quoted hne hquote] at hnone
    simp at hnone
  rw [hshape, hempty]
  rfl

/-- The value of a parameter as the reader finds it: when it begins and ends with quotes, it is
read again as it stands, and a quote within it is all but for separators. -/
structure FoundValue (v : List Char) : Prop where
  quoted : Property.isQuoted v = true → StandsFor v v
  bare : '"' ∈ v → Property.isQuoted v = true ∨ ∀ c ∈ v, isSeparator c = false

theorem foundValue_of_not_mem {v : List Char} (h : '"' ∉ v) : FoundValue v where
  quoted := fun hquoted => by simp [Property.isQuoted_eq_false h] at hquoted
  bare := fun hmem => absurd hmem h

/-- A list of quoted texts stands for itself. -/
theorem readParamValue_list {content skipped rest : List Char} (hne : content ≠ [])
    (hquote : '"' ∉ content) (hskipped : skipped ≠ [])
    (hskip : skipQuoted (skipped ++ rest) = rest) :
    readParamValue ('"' :: content ++ '"' :: skipped ++ rest) =
      ('"' :: content ++ '"' :: skipped, rest) := by
  have hshape : '"' :: content ++ '"' :: skipped ++ rest =
      '"' :: content ++ '"' :: (skipped ++ rest) := by simp
  have hread := readQuoted?_quoted hne hquote (skipped ++ rest)
  rw [← hshape] at hread
  have hlen : rest.length ≠ (skipped ++ rest).length := by simpa using hskipped
  rw [readParamValue, hread]
  simp only [hskip, if_neg hlen]
  rw [List.length_append, Nat.add_sub_cancel, List.take_left]

theorem foundValue_readParamValue (cs : List Char) : FoundValue (readParamValue cs).1 := by
  cases h : readQuoted? cs with
  | some found =>
    obtain ⟨content, rest⟩ := found
    obtain ⟨hne, hquote, rfl⟩ := readQuoted?_eq_some_iff.mp h
    obtain ⟨skipped, hrest, hskip, rfl | ⟨init, rfl⟩⟩ := skipQuoted_spec rest
    · have hself : skipQuoted rest = rest := hrest.symm
      rw [readParamValue, h]
      simpa [hself] using foundValue_of_not_mem hquote
    · have hskipped : init ++ ['"'] ≠ [] := by simp
      have hlist := readParamValue_list hne hquote hskipped (congrArg skipQuoted hrest).symm
      have hshape : '"' :: content ++ '"' :: (init ++ ['"']) ++ skipQuoted rest =
          '"' :: content ++ '"' :: rest := by
        conv_rhs => rw [hrest]
        simp
      rw [hshape] at hlist
      have hquoted : Property.isQuoted ('"' :: content ++ '"' :: (init ++ ['"'])) = true :=
        isQuoted_iff.mpr ⟨content ++ '"' :: init, by simp⟩
      rw [hlist]
      refine ⟨fun _ next hnext => ?_, fun _ => .inl hquoted⟩
      exact readParamValue_list hne hquote hskipped (by rw [hskip, skipQuoted_eq_self hnext])
  | none =>
    have hbare : ∀ c ∈ cs.takeWhile fun c => c != ';' && c != ':', isSeparator c = false := by
      intro c hc
      simpa [isSeparator] using List.mem_takeWhile_imp hc
    rw [readParamValue, h]
    refine ⟨fun hquoted rest hrest => ?_, fun _ => .inr hbare⟩
    have hnone : readQuoted? ((cs.takeWhile fun c => c != ';' && c != ':') ++
        cs.dropWhile fun c => c != ';' && c != ':') = none := by
      rw [List.takeWhile_append_dropWhile]
      exact h
    exact readParamValue_of_not_quoted (readQuoted?_append_eq_none hquoted hnone rest) hbare hrest

/-- A parameter as the reader finds it. -/
structure FoundParam (q : List Char × List Char) : Prop where
  key_chars : ∀ c ∈ q.1, isKeyChar c = true
  value : FoundValue q.2

theorem isKeyChar_of_mem_readKey {cs : List Char} {c : Char} (h : c ∈ (readKey cs).1) :
    isKeyChar c = true :=
  List.mem_takeWhile_imp h

theorem foundParam_readParam (cs : List Char) : FoundParam (readParam cs).1 := by
  have hkey : ∀ c ∈ (readKey (cs.dropWhile isTab)).1, isKeyChar c = true :=
    fun _ => isKeyChar_of_mem_readKey
  rw [readParam]
  generalize readKey (cs.dropWhile isTab) = found at hkey
  obtain ⟨key, rest⟩ := found
  dsimp only
  split
  · exact ⟨hkey, foundValue_readParamValue _⟩
  · exact ⟨hkey, foundValue_of_not_mem (by simp)⟩

theorem foundParam_of_mem_readParams {cs : List Char} {q : List Char × List Char}
    (h : q ∈ (readParams cs).1) : FoundParam q := by
  fun_induction readParams cs with
  | case1 rest param after hparam hle params last hparams ih =>
    have hfirst := foundParam_readParam rest
    rw [hparam] at hfirst
    rcases List.mem_cons.mp h with rfl | h
    · exact hfirst
    · exact ih (by rwa [hparams])
  | case2 rest param after hparam hle =>
    have hfirst := foundParam_readParam rest
    rw [hparam] at hfirst
    exact List.mem_singleton.mp h ▸ hfirst
  | case3 cs hcs => simp at h

/-- No line end starts where none is found. -/
theorem not_break_of_afterMark? {c d : Char} {cs : List Char}
    (h : afterMark? ['\r', '\n'] (c :: d :: cs) = none) : ¬(c = '\r' ∧ d = '\n') := by
  rintro ⟨rfl, rfl⟩
  simp [afterMark?] at h

theorem breakFree_of_cutAt? {cs before after : List Char}
    (h : cutAt? ['\r', '\n'] cs = some (before, after)) : BreakFree before := by
  induction cs generalizing before with
  | nil => simp [cutAt?] at h
  | cons c cs ih =>
    rw [cutAt?] at h
    split at h
    · obtain ⟨rfl, -⟩ : [] = before ∧ _ = after := by simpa using h
      exact .nil
    · rename_i hmark
      obtain ⟨⟨before', after'⟩, hcut, hpair⟩ := Option.map_eq_some_iff.mp h
      obtain ⟨rfl, rfl⟩ : c :: before' = before ∧ after' = after := by simpa using hpair
      refine List.isChain_cons.mpr ⟨fun d hd => ?_, ih hcut⟩
      obtain ⟨tail, rfl⟩ := List.head?_eq_some_iff.mp hd
      rw [eq_of_cutAt? hcut] at hmark
      exact not_break_of_afterMark? hmark

theorem breakFree_of_cutAt?_eq_none {cs : List Char} (h : cutAt? ['\r', '\n'] cs = none) :
    BreakFree cs := by
  induction cs with
  | nil => exact .nil
  | cons c cs ih =>
    rw [cutAt?] at h
    split at h
    · simp at h
    · rename_i hmark
      refine List.isChain_cons.mpr ⟨fun d hd => ?_, ih (by simpa using h)⟩
      obtain ⟨tail, rfl⟩ := List.head?_eq_some_iff.mp hd
      exact not_break_of_afterMark? hmark

/-- A value ends before the first line end. -/
theorem breakFree_readValue (cs : List Char) : BreakFree (readValue cs).1 := by
  rw [readValue]
  split
  · rename_i h
    exact breakFree_of_cutAt? h
  · rename_i h
    have hall := breakFree_of_cutAt?_eq_none h
    split
    · rename_i value rest hcut
      rw [eq_of_cutAt? hcut] at hall
      exact (List.isChain_append.mp hall).1
    · exact hall

/-- A property as the reader finds it. -/
structure RawProperty.Found (raw : RawProperty) : Prop where
  name_chars : ∀ c ∈ raw.name, isKeyChar c = true
  params : ∀ q ∈ raw.params, FoundParam q
  breakFree : BreakFree raw.value

theorem found_of_readLine? {cs rest : List Char} {raw : RawProperty}
    (h : readLine? cs = some (raw, rest)) : raw.Found := by
  simp only [readLine?] at h
  split at h
  · obtain ⟨rfl, -⟩ := Prod.mk.inj (Option.some.inj h)
    exact ⟨fun _ => isKeyChar_of_mem_readKey, fun _ => foundParam_of_mem_readParams,
      breakFree_readValue _⟩
  · simp at h

theorem found_of_readProperty? {cs rest : List Char} {raw : RawProperty}
    (h : readProperty? cs = some (raw, rest)) : raw.Found := by
  simp only [readProperty?] at h
  split at h
  · simp at h
  · split at h
    · rename_i found hline
      rw [h] at hline
      exact found_of_readLine? hline
    · obtain ⟨rfl, -⟩ := Prod.mk.inj (Option.some.inj h)
      exact ⟨fun _ => isKeyChar_of_mem_readKey, by simp, .nil⟩

theorem isKeyChar_toUpper {c : Char} (h : isKeyChar c = true) : isKeyChar c.toUpper = true := by
  cases hc : c.isLower with
  | false => rwa [Char.toUpper_eq_of_not_isLower (by simp [hc])]
  | true =>
    have hsmall : isSmall c = true := by simp [isSmall, isLowerChar_eq, hc]
    exact isKeyChar_of_isCapital (isCapital_toUpper hsmall)

/-- The name and the keys that a property or component gets in upper case. -/
theorem isName_upper {name : List Char} (h : ∀ c ∈ name, isKeyChar c = true) :
    IsName (upper (String.ofList name)) := by
  refine ⟨upper_upper _, fun c hc => ?_⟩
  rw [toList_upper, String.toList_ofList] at hc
  obtain ⟨d, hd, rfl⟩ := List.mem_map.mp hc
  exact isKeyChar_toUpper (h d hd)

namespace RawProperty.Found

variable {raw : RawProperty} (h : raw.Found)
include h

theorem foundValue {q : String × String} (hq : q ∈ raw.toProperty.params) :
    FoundValue q.2.toList := by
  obtain ⟨r, hr, rfl⟩ := List.mem_map.mp hq
  simpa using (h.params r (List.mem_filter.mp hr).1).value

/-- The parameters that a property keeps are those that do not name its type. -/
theorem regular : raw.toProperty.Regular where
  name := isName_upper h.name_chars
  params := by
    intro q hq
    obtain ⟨r, hr, rfl⟩ := List.mem_map.mp hq
    obtain ⟨hmem, hkey⟩ := List.mem_filter.mp hr
    exact ⟨isName_upper (h.params r hmem).key_chars, by simpa [isTypeKey] using hkey⟩
  valueType := by
    change lower (upper raw.valueType) = raw.valueType
    rw [RawProperty.valueType]
    split
    · exact lower_upper_lower _
    · exact lower_upper_of_isSmallWord (ValueType.isSmallWord_ofName _)

end RawProperty.Found

/-- A property has one value, unless it is a list. -/
theorem RawProperty.exists_value {raw : RawProperty}
    (hlist : ValueType.isList raw.toProperty.name = false) : ∃ v, raw.toProperty.values = [v] := by
  have hraw : ValueType.isList (String.ofList raw.name) = false := by
    cases hn : ValueType.isList (String.ofList raw.name) with
    | false => rfl
    | true =>
      change ValueType.isList (upper (String.ofList raw.name)) = false at hlist
      rw [ValueType.upper_of_isList hn, hn] at hlist
      exact hlist
  rw [RawProperty.toProperty]
  simp [hraw]

/-- A component as the reader finds it. -/
def FoundComponent (c : Component) : Prop := c.Throughout fun d =>
  IsName d.name ∧ ∀ p ∈ d.properties, ∃ raw : RawProperty, raw.Found ∧ p = raw.toProperty

theorem found_of_readOpening? {cs name rest : List Char}
    (h : readOpening? cs = some (name, rest)) : ∀ c ∈ name, isKeyChar c = true := by
  obtain ⟨after, -, hname⟩ := Option.map_eq_some_iff.mp h
  obtain ⟨rfl, -⟩ := Prod.mk.inj hname
  exact fun _ => isKeyChar_of_mem_readKey

/-- What the reader finds within a component, item by item. -/
theorem found_of_readBody? {name cs rest : List Char} {body : Body}
    (h : readBody? name cs = some (body, rest)) :
    (∀ p ∈ body.properties, ∃ raw : RawProperty, raw.Found ∧ p = raw.toProperty) ∧
      ∀ d ∈ body.components, FoundComponent d := by
  fun_induction readBody? name cs generalizing body rest with
  | case1 name cs after hclosing =>
    obtain ⟨last, -, hbody⟩ := Option.map_eq_some_iff.mp h
    obtain ⟨rfl, -⟩ := Prod.mk.inj hbody
    exact ⟨by simp, by simp⟩
  | case2 name cs hclosing childName start hopening hstart child after hchild hshorter ihbody
      ihnext =>
    obtain ⟨⟨next, last⟩, hnext, hbody⟩ := Option.map_eq_some_iff.mp h
    obtain ⟨rfl, -⟩ := Prod.mk.inj hbody
    obtain ⟨hproperties, hcomponents⟩ := ihnext hnext
    obtain ⟨hown, hwithin⟩ := ihbody hchild
    have hname := isName_upper (found_of_readOpening? hopening)
    refine ⟨hproperties, fun d hd => ?_⟩
    rcases List.mem_cons.mp hd with rfl | hd
    · exact .intro ⟨hname, hown⟩ hwithin
    · exact hcomponents d hd
  | case6 name cs hclosing hopening raw after hproperty hshorter ihnext =>
    obtain ⟨⟨next, last⟩, hnext, hbody⟩ := Option.map_eq_some_iff.mp h
    obtain ⟨rfl, -⟩ := Prod.mk.inj hbody
    obtain ⟨hproperties, hcomponents⟩ := ihnext hnext
    refine ⟨fun p hp => ?_, hcomponents⟩
    rcases List.mem_cons.mp hp with rfl | hp
    · exact ⟨raw, found_of_readProperty? hproperty, rfl⟩
    · exact hproperties p hp
  | case3 | case4 | case5 | case7 | case8 => simp at h

theorem found_of_readDocument? {cs : List Char} {c : Component}
    (h : readDocument? cs = some c) : FoundComponent c := by
  rw [readDocument?] at h
  split at h
  · rename_i name start hopening
    split at h
    · rename_i body hbody
      obtain rfl := Option.some.inj h
      obtain ⟨hproperties, hcomponents⟩ := found_of_readBody? hbody
      exact .intro ⟨isName_upper (found_of_readOpening? hopening), hproperties⟩ hcomponents
    · simp at h
  · simp at h

/-- What is read is a calendar by its name, and all in it is as the reader finds things. -/
theorem found_of_read {text : String} {c : Component} (h : read text = .ok c) :
    c.name = "VCALENDAR" ∧ FoundComponent c := by
  rw [read] at h
  split at h
  · simp at h
  · rename_i root hroot
    split at h
    · rename_i hname
      obtain rfl := Except.ok.inj h
      have hfound := found_of_readDocument? hroot
      refine ⟨?_, hfound⟩
      rw [← hfound.here.1.upper_eq, upper_eq_of_sameName hname]
      decide
    · simp at h

end CalendarRelay.Document
