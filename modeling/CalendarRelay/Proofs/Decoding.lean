import CalendarRelay.Proofs.Canonical

namespace CalendarRelay

open Text Folding

/-- A text as it is without its carriage returns. -/
def Text.withoutReturns (cs : List Char) : List Char := cs.filter (· != '\r')

namespace Text

@[simp] theorem withoutReturns_nil : withoutReturns [] = [] := rfl

theorem withoutReturns_cons (c : Char) (cs : List Char) :
    withoutReturns (c :: cs) = withoutReturns [c] ++ withoutReturns cs :=
  List.filter_append [c] cs

theorem withoutReturns_singleton {c : Char} (h : c ≠ '\r') : withoutReturns [c] = [c] := by
  simp [withoutReturns, h]

theorem withoutReturns_eq_self {cs : List Char} (h : '\r' ∉ cs) : withoutReturns cs = cs := by
  rw [withoutReturns, List.filter_eq_self]
  intro c hc
  simpa using fun he : c = '\r' => h (he ▸ hc)

end Text

namespace Escape

/-- Carriage returns are not written. -/
theorem escape_withoutReturns (v : List Char) : escape (withoutReturns v) = escape v := by
  induction v with
  | nil => rfl
  | cons c cs ih =>
    by_cases hc : c = '\r'
    · subst hc
      exact ih
    · rw [withoutReturns_cons, withoutReturns_singleton hc, List.singleton_append, escape_cons,
        escape_cons, ih]

/-- What a character after a backslash stands for. -/
def afterBackslash (c : Char) : Char := if c = 'n' ∨ c = 'N' then '\n' else c

theorem afterBackslash_of_unescapeChar? {c d : Char} (h : unescapeChar? d = some c) :
    afterBackslash d = c := by
  rw [unescapeChar?] at h
  split at h
  · rename_i hd
    rw [Option.some.injEq] at h
    subst h
    rcases hd with rfl | rfl | rfl | rfl <;> rfl
  · split at h
    · rename_i hd
      rw [Option.some.injEq] at h
      rw [afterBackslash, if_pos hd, h]
    · simp at h

/-- How far a list of texts has been read: the elements that have ended, what there is of the next
one, and whether a backslash takes the next character. -/
structure Scan where
  ended : List (List Char) := []
  current : List Char := []
  escaping : Bool := false
  deriving DecidableEq

namespace Scan

/-- What one more character leads to. -/
def step (s : Scan) (c : Char) : Scan :=
  if s.escaping then { s with current := s.current ++ [afterBackslash c], escaping := false }
  else if c = '\\' then { s with escaping := true }
  else if c = ',' then { ended := s.ended ++ [s.current] }
  else { s with current := s.current ++ [c] }

/-- What a whole text leads to, read from left to right. -/
def run (s : Scan) (cs : List Char) : Scan := cs.foldl step s

/-- The elements at the end of a text, unless a backslash has nothing to take. -/
def elements? (s : Scan) : Option (List (List Char)) :=
  if s.escaping then none else some (s.ended ++ [s.current])

/-- More of the element that is being read. -/
def taking (s : Scan) (cs : List Char) : Scan := { s with current := s.current ++ cs }

variable {s : Scan}

@[simp] theorem run_nil (s : Scan) : s.run [] = s := rfl

@[simp] theorem run_cons (s : Scan) (c : Char) (cs : List Char) :
    s.run (c :: cs) = (s.step c).run cs := rfl

/-- Reading may stop and go on anywhere. -/
theorem run_run (s : Scan) (a b : List Char) : (s.run a).run b = s.run (a ++ b) :=
  List.foldl_append.symm

@[simp] theorem taking_nil (s : Scan) : s.taking [] = s := by simp [taking]

@[simp] theorem escaping_taking (s : Scan) (cs : List Char) :
    (s.taking cs).escaping = s.escaping := rfl

theorem taking_append (s : Scan) (a b : List Char) :
    s.taking (a ++ b) = (s.taking a).taking b := by
  simp [taking]

theorem step_plain (hs : s.escaping = false) {c : Char} (hb : c ≠ '\\') (hc : c ≠ ',') :
    s.step c = s.taking [c] := by
  simp [step, taking, hs, hb, hc]

theorem step_comma (hs : s.escaping = false) :
    s.step ',' = { ended := s.ended ++ [s.current] } := by
  simp [step, hs]

theorem run_pair (hs : s.escaping = false) (c : Char) :
    s.run ['\\', c] = s.taking [afterBackslash c] := by
  simp [step, taking, hs]

/-- What is written for a character adds that character to the element, and leaves no backslash
behind that would take what comes next. -/
theorem run_escapeChar (hs : s.escaping = false) (c : Char) :
    s.run (escapeChar c) = s.taking (withoutReturns [c]) := by
  rcases escapeChar_cases c with ⟨he, -⟩ | ⟨he, hc⟩ | ⟨d, he, hd, -⟩
  · -- a character that stands for itself is neither a backslash nor a comma
    obtain ⟨hb, -, hcomma, -, hr⟩ := escapeChar_eq_self_iff.mp he
    rw [he, run_cons, run_nil, step_plain hs hb hcomma, withoutReturns_singleton hr]
  · subst hc
    simp [he, withoutReturns]
  · have hr : c ≠ '\r' := by
      rintro rfl
      simp [escapeChar] at he
    rw [he, run_pair hs, afterBackslash_of_unescapeChar? hd, withoutReturns_singleton hr]

theorem run_escape (hs : s.escaping = false) (v : List Char) :
    s.run (escape v) = s.taking (withoutReturns v) := by
  induction v generalizing s with
  | nil => simp
  | cons c cs ih =>
    rw [escape_cons, ← run_run, run_escapeChar hs, ih (by simpa using hs), ← taking_append,
      ← withoutReturns_cons]

/-- The only commas at which elements end are the ones that were put between them. -/
theorem elements?_run_joinWith {vs : List (List Char)} (hvs : vs ≠ []) (hs : s.escaping = false)
    (hcurrent : s.current = []) :
    (s.run (joinWith ',' (vs.map escape))).elements? =
      some (s.ended ++ vs.map withoutReturns) := by
  induction vs generalizing s with
  | nil => exact absurd rfl hvs
  | cons v vs ih =>
    cases vs with
    | nil =>
      rw [List.map_singleton, joinWith, run_escape hs]
      simp [elements?, taking, hs, hcurrent]
    | cons w vs =>
      have hjoin : joinWith ',' ((v :: w :: vs).map escape) =
          escape v ++ ',' :: joinWith ',' ((w :: vs).map escape) := rfl
      have hcomma : (s.taking (withoutReturns v)).step ',' =
          { ended := s.ended ++ [withoutReturns v] } := by
        -- whatever the element ends in, no backslash is left to take the comma
        have hplain : (s.taking (withoutReturns v)).escaping = false := hs
        rw [step_comma hplain]
        simp [taking, hcurrent]
      rw [hjoin, ← run_run, run_escape hs, run_cons, hcomma, ih (by simp) rfl rfl]
      simp

end Scan

/-- The texts that stand in a written list of them. -/
def texts? (cs : List Char) : Option (List String) :=
  (Scan.run {} cs).elements?.map (·.map String.ofList)

/-- What the written form of a text tells of it, which is all but its carriage returns. -/
def told (v : String) : String := String.ofList (withoutReturns v.toList)

theorem told_eq_self {v : String} (h : '\r' ∉ v.toList) : told v = v := by
  rw [told, withoutReturns_eq_self h, String.ofList_toList]

end Escape

namespace Property

/-- What stands before the values in the content line of a property. -/
def label (p : Property) : List Char :=
  (upper p.name).toList ++ p.params.flatMap (fun q => paramText q.1 q.2) ++
    typeText (upper p.name) p.valueType

theorem contentLine_eq_label (p : Property) : p.contentLine = p.label ++ ':' :: p.valueText := rfl

section Texts

variable {p q : Property}

/-- A reader of written texts finds each of them as far as it is told. -/
theorem texts?_valueText (ht : p.valueType = ValueType.text) (hne : p.values ≠ []) :
    Escape.texts? p.valueText = some (p.values.map Escape.told) := by
  have hwritten : p.valueText = joinWith ',' ((p.values.map String.toList).map Escape.escape) := by
    simp [valueText, ht, Function.comp_def]
  have helements : (Escape.Scan.run {} p.valueText).elements? =
      some ((p.values.map String.toList).map withoutReturns) := by
    rw [hwritten, Escape.Scan.elements?_run_joinWith (by simpa using hne) rfl rfl, List.nil_append]
  simp [Escape.texts?, helements, Escape.told, Function.comp_def]

theorem valueText_congr (hp : p.valueType = ValueType.text) (hq : q.valueType = ValueType.text)
    (h : p.values.map Escape.told = q.values.map Escape.told) : p.valueText = q.valueText := by
  have hwritten {p : Property} (ht : p.valueType = ValueType.text) : p.valueText =
      joinWith ',' ((p.values.map Escape.told).map fun v => Escape.escape v.toList) := by
    simp [valueText, ht, Function.comp_def, Escape.told, Escape.escape_withoutReturns]
  rw [hwritten hp, hwritten hq, h]

/-- Texts under the same label have the same content line exactly when they differ in nothing but
their carriage returns. -/
theorem contentLine_eq_iff (hp : p.valueType = ValueType.text) (hq : q.valueType = ValueType.text)
    (hpne : p.values ≠ []) (hqne : q.values ≠ []) (hlabel : p.label = q.label) :
    p.contentLine = q.contentLine ↔
      p.values.map Escape.told = q.values.map Escape.told := by
  rw [contentLine_eq_label, contentLine_eq_label, hlabel, List.append_cancel_left_eq,
    List.cons_inj_right]
  constructor
  · intro h
    have htexts := congrArg Escape.texts? h
    rwa [texts?_valueText hp hpne, texts?_valueText hq hqne, Option.some.injEq] at htexts
  · exact valueText_congr hp hq

end Texts

/-- A property of texts without carriage returns. There is at least one of them: no text at all is
written like the empty one. -/
structure HoldsTexts (p : Property) : Prop where
  valueType : p.valueType = ValueType.text
  values_ne : p.values ≠ []
  returnFree : ∀ v ∈ p.values, '\r' ∉ v.toList

theorem HoldsTexts.map_told {p : Property} (h : p.HoldsTexts) :
    p.values.map Escape.told = p.values := by
  have hself : ∀ v ∈ p.values, Escape.told v = id v :=
    fun v hv => Escape.told_eq_self (h.returnFree v hv)
  rw [List.map_congr_left hself, List.map_id]

/-- The texts of a property are written without line ends, a reader of what is written finds these
texts, and other texts under the same name and parameters have another content line. -/
theorem texts_uniquely_decodable {p : Property} (h : p.HoldsTexts) :
    p.contentLine = p.label ++ ':' :: p.valueText ∧
      (∀ c ∈ p.valueText, c ≠ '\r' ∧ c ≠ '\n') ∧
      Escape.texts? p.valueText = some p.values ∧
      ∀ q : Property, q.HoldsTexts → q.name = p.name → q.params = p.params →
        q.values ≠ p.values → q.contentLine ≠ p.contentLine := by
  refine ⟨contentLine_eq_label p, ?_, ?_, ?_⟩
  · intro c hc
    simpa [isLineEnd] using isLineEnd_of_mem_valueText_of_text h.valueType hc
  · rw [texts?_valueText h.valueType h.values_ne, h.map_told]
  · intro q hq hname hparams hne heq
    have hlabel : q.label = p.label := by
      rw [label, label, hname, hparams, hq.valueType, h.valueType]
    rw [contentLine_eq_iff hq.valueType h.valueType hq.values_ne h.values_ne hlabel,
      hq.map_told, h.map_told] at heq
    exact hne heq

/-- Texts with backslashes, commas and nothing at all next to the commas between them. -/
def shares : Property where
  name := "X-SHARES"
  params := [("LANGUAGE", "en; de")]
  values := ["C:\\new\\", ",b", "", "a;\n\\n"]

/-- Other texts of the same letters, with a comma on the other side of a border. -/
def movedShares : Property := { shares with values := ["C:\\new\\,", "b", "", "a;\n\\n"] }

theorem texts_uniquely_decodable_shares :
    shares.HoldsTexts ∧ movedShares.HoldsTexts ∧
      Escape.texts? "C:\\\\new\\\\,\\,b,,a\\;\\n\\\\n".toList = some shares.values ∧
      movedShares.contentLine ≠ shares.contentLine := by
  have hshares : shares.HoldsTexts := ⟨rfl, by decide, by decide +kernel⟩
  have hmoved : movedShares.HoldsTexts := ⟨rfl, by decide, by decide +kernel⟩
  have hwritten : shares.valueText = "C:\\\\new\\\\,\\,b,,a\\;\\n\\\\n".toList := by decide +kernel
  obtain ⟨-, -, htexts, hother⟩ := texts_uniquely_decodable hshares
  exact ⟨hshares, hmoved, hwritten ▸ htexts, hother movedShares hmoved rfl rfl (by decide)⟩

end Property

end CalendarRelay
