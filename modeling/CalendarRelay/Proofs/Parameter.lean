import CalendarRelay.Calendar.Writer
import CalendarRelay.Calendar.Reader
import CalendarRelay.Proofs.Letters

namespace CalendarRelay.Document

open Text

theorem isAscii_of_isCapital {c : Char} (h : isCapital c = true) :
    Unicode.Letter.isAscii c = true := by
  rcases Bool.or_eq_true _ _ ▸ h with hc | hc
  · have hle := (Bool.and_eq_true _ _ ▸ hc).2
    simp only [decide_eq_true_eq, Char.le_def, UInt32.le_iff_toNat_le] at hle
    have hz : 'Z'.val.toNat = 90 := rfl
    simp only [Unicode.Letter.isAscii, Char.toNat, decide_eq_true_eq]
    omega
  · have : c = '-' := by simpa using hc
    subst this
    decide

theorem isKeyChar_of_isCapital {c : Char} (h : isCapital c = true) : isKeyChar c = true := by
  have hascii := isAscii_of_isCapital h
  rcases Bool.or_eq_true _ _ ▸ h with hc | hc
  · simp [isKeyChar, Unicode.Letter.isAlphanumeric, hascii, isLetter, hc]
  · simp_all [isKeyChar]

theorem isKeyChar_of_isCapitalWord {cs : List Char} (h : isCapitalWord cs = true) :
    ∀ c ∈ cs, isKeyChar c = true := fun c hc =>
  isKeyChar_of_isCapital (isCapital_of_isCapitalWord h c hc)

/-- A run of characters is found whole when the one after it is of another kind. -/
theorem while_append {p : Char → Bool} {run rest : List Char} (hrun : ∀ c ∈ run, p c = true)
    (hrest : rest.head?.all (!p ·) = true) :
    (run ++ rest).takeWhile p = run ∧ (run ++ rest).dropWhile p = rest := by
  rw [List.takeWhile_append_of_pos hrun, List.dropWhile_append_of_pos hrun]
  cases rest with
  | nil => simp
  | cons c cs =>
    have hc : p c = false := by simpa using hrest
    simp [hc]

/-- Whether a text goes on with something else than a name. -/
def endsKey (cs : List Char) : Bool := cs.head?.all (!isKeyChar ·)

theorem readKey_append {key rest : List Char} (hk : ∀ c ∈ key, isKeyChar c = true)
    (hr : endsKey rest = true) : readKey (key ++ rest) = (key, rest) := by
  obtain ⟨htake, hdrop⟩ := while_append hk hr
  rw [readKey, htake, hdrop]

/-- What stands before a parameter or before the value of a property. -/
def isSeparator (c : Char) : Bool := c == ';' || c == ':'

theorem isSeparator_iff {c : Char} : isSeparator c = true ↔ c = ';' ∨ c = ':' := by
  simp [isSeparator]

theorem isSeparator_toLower (c : Char) : isSeparator c.toLower = isSeparator c := by
  rw [Bool.eq_iff_iff, isSeparator_iff, isSeparator_iff]
  constructor
  · rintro (h | h)
    · exact .inl (eq_of_toLower (by decide) h)
    · exact .inr (eq_of_toLower (by decide) h)
  · rintro (rfl | rfl) <;> decide

/-- Whether a text goes on with a further parameter or with the value of the property. -/
def endsParam (cs : List Char) : Bool := cs.head?.any isSeparator

theorem endsParam_iff {cs : List Char} :
    endsParam cs = true ↔ ∃ rest, cs = ';' :: rest ∨ cs = ':' :: rest := by
  cases cs with
  | nil => simp [endsParam]
  | cons c cs => simp [endsParam, isSeparator, exists_or]

theorem endsKey_of_endsParam {cs : List Char} (h : endsParam cs = true) : endsKey cs = true := by
  obtain ⟨rest, rfl | rfl⟩ := endsParam_iff.mp h <;> rfl

theorem readQuoted?_eq_none {c : Char} (hc : c ≠ '"') (cs : List Char) :
    readQuoted? (c :: cs) = none := by
  rw [readQuoted?]
  simp_all

theorem readQuoted?_quoted {v : List Char} (hv : v ≠ []) (hq : '"' ∉ v) (rest : List Char) :
    readQuoted? ('"' :: v ++ '"' :: rest) = some (v, rest) := by
  have hp : ∀ c ∈ v, (c != '"') = true := by
    intro c hc
    have : c ≠ '"' := by rintro rfl; exact hq hc
    simpa using this
  have hstop : ('"' :: rest).head?.all (fun c => !(c != '"')) = true := rfl
  obtain ⟨htake, hdrop⟩ := while_append hp hstop
  obtain ⟨a, v', rfl⟩ := List.exists_cons_of_ne_nil hv
  rw [List.cons_append, readQuoted?, htake, hdrop]

theorem skipQuoted_eq_self {cs : List Char} (h : endsParam cs = true) : skipQuoted cs = cs := by
  obtain ⟨rest, rfl | rfl⟩ := endsParam_iff.mp h <;>
    · rw [skipQuoted]
      simp

/-- What is written for the value of a parameter is read as the value, whatever comes next. -/
def StandsFor (written value : List Char) : Prop :=
  ∀ rest, endsParam rest = true → readParamValue (written ++ rest) = (value, rest)

theorem standsFor_quoted {v : List Char} (hv : v ≠ []) (hq : '"' ∉ v) :
    StandsFor ('"' :: v ++ ['"']) v := by
  intro rest hr
  have hquoted : '"' :: v ++ ['"'] ++ rest = '"' :: v ++ '"' :: rest := by simp
  rw [hquoted, readParamValue, readQuoted?_quoted hv hq]
  simp [skipQuoted_eq_self hr]

/-- A value that is no quoted text goes on to the next separator. -/
theorem readParamValue_of_not_quoted {v rest : List Char} (hnone : readQuoted? (v ++ rest) = none)
    (hv : ∀ c ∈ v, isSeparator c = false) (hr : endsParam rest = true) :
    readParamValue (v ++ rest) = (v, rest) := by
  have hp : ∀ c ∈ v, (c != ';' && c != ':') = true := by
    intro c hc
    simpa [isSeparator] using hv c hc
  have hstop : rest.head?.all (fun c => !(c != ';' && c != ':')) = true := by
    obtain ⟨cs, rfl | rfl⟩ := endsParam_iff.mp hr <;> rfl
  obtain ⟨htake, hdrop⟩ := while_append hp hstop
  rw [readParamValue, hnone]
  simp only [htake, hdrop]

theorem standsFor_bare {v : List Char} (hq : v.head? ≠ some '"')
    (hv : ∀ c ∈ v, isSeparator c = false) : StandsFor v v := by
  intro rest hr
  refine readParamValue_of_not_quoted ?_ hv hr
  cases v with
  | nil => obtain ⟨cs, rfl | rfl⟩ := endsParam_iff.mp hr <;> rfl
  | cons c cs => exact readQuoted?_eq_none (by simpa using hq) (cs ++ rest)

/-- A parameter is read as it is written when its value is. -/
theorem readParams_cons {key written value rest : List Char}
    (hk : ∀ c ∈ key, isKeyChar c = true) (hv : StandsFor written value)
    (hr : endsParam rest = true) :
    readParams (';' :: key ++ '=' :: written ++ rest) =
      ((key, value) :: (readParams rest).1, (readParams rest).2) := by
  have hblank : (key ++ '=' :: (written ++ rest)).dropWhile isTab =
      key ++ '=' :: (written ++ rest) := by
    have htab : ∀ c, isKeyChar c = true → isTab c = false := by
      intro c hc
      by_contra ht
      have ht : c = ' ' ∨ c = '\t' := by
        simpa only [isTab, Bool.not_eq_false, Bool.or_eq_true, beq_iff_eq] using ht
      rcases ht with rfl | rfl <;> revert hc <;> decide
    cases key with
    | nil => rfl
    | cons c cs => simp [htab c (hk c (by simp))]
  have hparam : readParam (key ++ '=' :: (written ++ rest)) = ((key, value), rest) := by
    rw [readParam, hblank, readKey_append hk rfl]
    simp [hv rest hr]
  have hshape : ';' :: key ++ '=' :: written ++ rest =
      ';' :: (key ++ '=' :: (written ++ rest)) := by
    simp
  rw [hshape, readParams, hparam]
  have hlen : rest.length ≤ (key ++ '=' :: (written ++ rest)).length := by
    simp only [List.length_append, List.length_cons]
    omega
  simp only [if_pos hlen]

theorem readParams_value (rest : List Char) : readParams (':' :: rest) = ([], ':' :: rest) := by
  rw [readParams]
  simp

end CalendarRelay.Document
