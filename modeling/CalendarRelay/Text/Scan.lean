namespace CalendarRelay.Text

/-- What follows `mark` in `cs`, when `cs` starts with it. -/
def afterMark? : (mark cs : List Char) → Option (List Char)
  | [], cs => some cs
  | _ :: _, [] => none
  | m :: mark, c :: cs => if m = c then afterMark? mark cs else none

theorem afterMark?_eq_some_iff {mark cs rest : List Char} :
    afterMark? mark cs = some rest ↔ cs = mark ++ rest := by
  induction mark generalizing cs with
  | nil => simp [afterMark?, eq_comm]
  | cons m mark ih =>
    cases cs with
    | nil => simp [afterMark?]
    | cons c cs =>
      by_cases h : m = c
      · simp [afterMark?, h, ih]
      · simp [afterMark?, h, Ne.symm h]

/-- What follows `mark` in `cs` when `cs` starts with it up to ASCII case. -/
def afterWord? : (mark cs : List Char) → Option (List Char)
  | [], cs => some cs
  | _ :: _, [] => none
  | m :: mark, c :: cs => if m.toLower = c.toLower then afterWord? mark cs else none

/-- The pieces of `cs` between the occurrences of `sep`; at least one, possibly empty. -/
def fieldsOf (sep : Char) : List Char → List (List Char)
  | [] => [[]]
  | c :: cs =>
    if c = sep then [] :: fieldsOf sep cs
    else match fieldsOf sep cs with
      | [] => [[c]]
      | piece :: pieces => (c :: piece) :: pieces

theorem fieldsOf_ne_nil (sep : Char) (cs : List Char) : fieldsOf sep cs ≠ [] := by
  cases cs with
  | nil => simp [fieldsOf]
  | cons c cs =>
    by_cases h : c = sep
    · simp [fieldsOf, h]
    · simp only [fieldsOf, h, if_false]
      split <;> simp

/-- The lists joined with `sep` between each two. -/
def joinWith (sep : Char) : List (List Char) → List Char
  | [] => []
  | [piece] => piece
  | piece :: pieces => piece ++ sep :: joinWith sep pieces

theorem joinWith_fieldsOf (sep : Char) (cs : List Char) : joinWith sep (fieldsOf sep cs) = cs := by
  induction cs with
  | nil => rfl
  | cons c cs ih =>
    by_cases h : c = sep
    · simp only [fieldsOf, h, if_true]
      cases hf : fieldsOf sep cs with
      | nil => exact absurd hf (fieldsOf_ne_nil sep cs)
      | cons p ps => rw [hf] at ih; simp [joinWith, ih]
    · simp only [fieldsOf, h, if_false]
      cases hf : fieldsOf sep cs with
      | nil => exact absurd hf (fieldsOf_ne_nil sep cs)
      | cons p ps =>
        rw [hf] at ih
        cases ps with
        | nil => simpa [joinWith] using ih
        | cons q qs => simpa [joinWith] using ih

/-- Whether `needle` occurs somewhere in `cs`. -/
def occursIn (needle : List Char) : List Char → Bool
  | [] => needle.isEmpty
  | c :: cs => needle.isPrefixOf (c :: cs) || occursIn needle cs

/-- The text before the first `mark` and the text after it. -/
def cutAt? (mark : List Char) : List Char → Option (List Char × List Char)
  | [] => if mark.isEmpty then some ([], []) else none
  | c :: cs =>
    match afterMark? mark (c :: cs) with
    | some rest => some ([], rest)
    | none => (cutAt? mark cs).map fun (before, after) => (c :: before, after)

/-- A mark is cut out of the text, and nothing else. -/
theorem eq_of_cutAt? {mark cs before after : List Char}
    (h : cutAt? mark cs = some (before, after)) : cs = before ++ (mark ++ after) := by
  induction cs generalizing before with
  | nil =>
    rw [cutAt?] at h
    split at h
    · rename_i hmark
      obtain ⟨rfl, rfl⟩ : [] = before ∧ [] = after := by simpa using h
      simpa using hmark
    · simp at h
  | cons c cs ih =>
    rw [cutAt?] at h
    split at h
    · rename_i rest hmark
      obtain ⟨rfl, rfl⟩ : [] = before ∧ rest = after := by simpa using h
      simpa using afterMark?_eq_some_iff.mp hmark
    · obtain ⟨⟨before', after'⟩, hcut, hpair⟩ := Option.map_eq_some_iff.mp h
      obtain ⟨rfl, rfl⟩ : c :: before' = before ∧ after' = after := by simpa using hpair
      rw [ih hcut, List.cons_append]

/-- A list of names as a log line shows it: `["a", "b"]`. -/
def quotedNames (names : List String) : String :=
  "[" ++ ", ".intercalate (names.map fun name => "\"" ++ name ++ "\"") ++ "]"

end CalendarRelay.Text
