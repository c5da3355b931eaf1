import CalendarRelay.Proofs.FilterReading

namespace CalendarRelay.Rule

open Decimal (Binary64)

namespace Operand

/-- What a value of the given type means: where the type is integer or float, in letters of any
case, a numeral is the number that it writes. Everything else is text. -/
def meaningOf (valueType value : String) : Value :=
  if Text.lower valueType = "integer" ∨ Text.lower valueType = "float" then
    (Binary64.ofText? value).elim (.text value) (.number value)
  else .text value

/-- What an operand stands for in an event, told from its text: after `event.` comes the name of a
field, which stands for the first value of the first property of that name that has one; any other
text stands for itself. -/
def meaning (r : Record) (source : String) : Option Value :=
  if "event.".toList.isPrefixOf source.toList then
    let name := String.ofList (source.toList.drop "event.".length)
    (r.filter fun p => Text.lower p.name = Text.lower name).findSome? fun p =>
      p.values.head?.map (meaningOf p.valueType)
  else some (.text source)

theorem isNumericType_iff (valueType : String) : Value.isNumericType valueType = true ↔
    Text.lower valueType = "integer" ∨ Text.lower valueType = "float" := by
  have hinteger : Text.lower "integer" = "integer" := by decide
  have hfloat : Text.lower "float" = "float" := by decide
  rw [Value.isNumericType, Bool.or_eq_true, Text.sameName_iff_lower, Text.sameName_iff_lower,
    hinteger, hfloat]

theorem typed_eq_meaningOf (value valueType : String) :
    Value.typed value valueType = meaningOf valueType value := by
  simp only [Value.typed, meaningOf, isNumericType_iff]
  congr 1
  cases Binary64.ofText? value <;> rfl

theorem resolve?_field (r : Record) (name : String) :
    (field name).resolve? r =
      (r.filter fun p => Text.lower p.name = Text.lower name).findSome? fun p =>
        p.values.head?.map (meaningOf p.valueType) := by
  rw [resolve?, Record.lineOf?]
  induction r with
  | nil => rfl
  | cons p r ih =>
    have hnamed : Text.sameName p.name name = decide (Text.lower p.name = Text.lower name) := by
      rw [Bool.eq_iff_iff, Text.sameName_iff_lower, decide_eq_true_iff]
    cases hname : Text.sameName p.name name with
    | false => simpa [Property.isNamed, hname, ← hnamed] using ih
    | true =>
      cases hv : p.values.head? with
      | none => simpa [Property.isNamed, Property.value?, hname, hv, ← hnamed] using ih
      | some v =>
        simp [Property.isNamed, Property.value?, hname, hv, ← hnamed, typed_eq_meaningOf]

/-- An operand stands in an event for what its text means. -/
theorem resolve?_ofText (r : Record) (source : String) :
    (ofText source).resolve? r = meaning r source := by
  rw [ofText, meaning]
  cases hmark : Text.afterMark? fieldMark source.toList with
  | some name =>
    have hsource := Text.afterMark?_eq_some_iff.mp hmark
    have hprefix : "event.".toList.isPrefixOf source.toList = true := by
      rw [hsource, List.isPrefixOf_iff_prefix]
      exact List.prefix_append _ _
    have hdrop : source.toList.drop "event.".length = name := by
      rw [hsource]
      exact List.drop_left
    rw [if_pos hprefix, hdrop]
    exact resolve?_field r (String.ofList name)
  | none =>
    have hprefix : ¬ "event.".toList.isPrefixOf source.toList = true := by
      rw [List.isPrefixOf_iff_prefix]
      rintro ⟨rest, hrest⟩
      have hsome := Text.afterMark?_eq_some_iff.mpr hrest.symm
      simp [fieldMark] at hmark hsome
      simp [hmark] at hsome
    rw [if_neg hprefix]
    rfl

end Operand

namespace Condition

/-- A condition holds as its comparison does, whether or not its pattern was read ahead. -/
theorem value_holds_of_make? {left right : Operand} {comparison : Comparison} {negate : Bool}
    {c : Condition} (h : make? left comparison right negate = some c) (r : Record) :
    (c.holds r).value =
      ((comparison.holds (left.resolve? r) (right.resolve? r)).value != negate) := by
  unfold make? at h
  split at h
  · rename_i source
    obtain ⟨p, hp, rfl⟩ := Option.map_eq_some_iff.mp h
    simp only [holds, Comparison.holds, Journaled.value_bind, Journaled.value_pure]
    cases left.resolve? r with
    | none => rfl
    | some v => simp [Operand.resolve?, Comparison.matchesText, Value.source, hp]
  · obtain rfl := Option.some.inj h
    rfl

end Condition

namespace Filter

/-- The text that an object has under a name. -/
def textAt? (fields : List (String × Json)) (name : String) : Option String :=
  (Json.lookup? fields name).bind Json.string?

theorem textAt?_of_lookup? {fields : List (String × Json)} {name s : String}
    (h : Json.lookup? fields name = some (.str s)) : textAt? fields name = some s := by
  rw [textAt?, h]
  rfl

/-- What an `if` node of a filter tree means in an event. -/
def conditionMeaning (r : Record) (fields : List (String × Json)) : Bool :=
  match textAt? fields "left", (textAt? fields "operator").bind Comparison.ofSymbol?,
    textAt? fields "right" with
  | some left, some comparison, some right =>
    let held := (comparison.holds (Operand.meaning r left) (Operand.meaning r right)).value
    if (Json.lookup? fields "negate").bind Json.bool? = some true then !held else held
  | _, _, _ => false

/-- What a filter tree means in an event. -/
def meaning (r : Record) (j : Json) : Bool :=
  match j with
  | .obj fields =>
    if textAt? fields "key" = some "if" then conditionMeaning r fields
    else
      match hl : Json.lookup? fields "left", hr : Json.lookup? fields "right" with
      | some left, some right =>
        have := Json.sizeOf_lt_of_lookup? hl
        have := Json.sizeOf_lt_of_lookup? hr
        if textAt? fields "key" = some "and" then meaning r left && meaning r right
        else textAt? fields "key" = some "or" && (meaning r left || meaning r right)
      | _, _ => false
  | _ => false
termination_by sizeOf j
decreasing_by all_goals simp_all only [Json.obj.sizeOf_spec]

theorem meaning_joint {r : Record} {fields : List (String × Json)} {left right : Json}
    (hleft : Json.lookup? fields "left" = some left)
    (hright : Json.lookup? fields "right" = some right)
    (hkey : textAt? fields "key" ≠ some "if") :
    meaning r (.obj fields) =
      if textAt? fields "key" = some "and" then meaning r left && meaning r right
      else textAt? fields "key" = some "or" && (meaning r left || meaning r right) := by
  rw [meaning, if_neg hkey]
  split
  · rename_i left' right' hleft' hright'
    obtain rfl := Option.some.inj (hleft.symm.trans hleft')
    obtain rfl := Option.some.inj (hright.symm.trans hright')
    rfl
  · simp_all

theorem value_holds_condition {place : Json.Location} {fields : List (String × Json)}
    {c : Condition} (h : conditionOf place fields = .ok c) (r : Record) :
    (c.holds r).value = conditionMeaning r fields := by
  obtain ⟨left, symbol, right, comparison, negate, hleft, hsymbol, hright, hcomparison, hnegate,
    hmake⟩ := conditionOf_eq_ok_iff.mp h
  rw [Condition.value_holds_of_make? hmake, Operand.resolve?_ofText, Operand.resolve?_ofText,
    conditionMeaning, textAt?_of_lookup? hleft, textAt?_of_lookup? hsymbol,
    textAt?_of_lookup? hright, Option.bind_some, hcomparison]
  rcases hnegate with ⟨hnone, rfl⟩ | hsome
  · simp [hnone]
  · cases negate <;> simp [hsome, Json.bool?]

theorem value_holds_and (f g : Filter) (r : Record) :
    (holds (.and f g) r).value = ((f.holds r).value && (g.holds r).value) := by
  simp only [holds, Predicate.evalM, Journaled.value_bind]
  split <;> simp_all

theorem value_holds_or (f g : Filter) (r : Record) :
    (holds (.or f g) r).value = ((f.holds r).value || (g.holds r).value) := by
  simp only [holds, Predicate.evalM, Journaled.value_bind]
  split <;> simp_all

/-- A filter that has been read from a tree has in every event the value that the tree means. -/
theorem value_holds_of_ofJson {place : Json.Location} {j : Json} {f : Filter}
    (h : ofJson place j = .ok f) (r : Record) : (f.holds r).value = meaning r j := by
  induction f generalizing place j with
  | always => exact absurd h ofJson_ne_always
  | leaf c =>
    obtain ⟨fields, rfl, hkey, hc⟩ := ofJson_leaf h
    rw [meaning, if_pos (textAt?_of_lookup? hkey)]
    exact value_holds_condition hc r
  | and f g ihf ihg =>
    obtain ⟨fields, left, right, rfl, hkey, hleft, hright, hf, hg⟩ := ofJson_and h
    have hkey := textAt?_of_lookup? hkey
    rw [value_holds_and, ihf hf, ihg hg, meaning_joint hleft hright (by simp [hkey]), if_pos hkey]
  | or f g ihf ihg =>
    obtain ⟨fields, left, right, rfl, hkey, hleft, hright, hf, hg⟩ := ofJson_or h
    have hkey := textAt?_of_lookup? hkey
    rw [value_holds_or, ihf hf, ihg hg, meaning_joint hleft hright (by simp [hkey]),
      if_neg (by simp [hkey]), decide_eq_true hkey, Bool.true_and]

/-- The tree of a filter for urgent events that are no stand-up meetings, or that have the status
that is wanted. -/
def urgentTree : Json := .obj [
  ("key", .str "and"),
  ("left", .obj [("key", .str "if"), ("left", .str "event.PRIORITY"), ("operator", .str "<="),
    ("right", .str "3")]),
  ("right", .obj [("key", .str "or"),
    ("left", .obj [("key", .str "if"), ("left", .str "event.SUMMARY"), ("negate", .bool true),
      ("operator", .str "REGEX"), ("right", .str "^Stand-?up")]),
    ("right", .obj [("key", .str "if"), ("left", .str "event.STATUS"), ("operator", .str "=="),
      ("right", .str "event.X-WANTED")])])]

/-- An event with a priority of the given type and value, after a line without a value. -/
def eventOf (summary priorityType priority : String) : Record :=
  [{ name := "summary", values := [summary] }, { name := "Priority", valueType := "text" },
    { name := "PRIORITY", valueType := priorityType, values := [priority] },
    { name := "PRIORITY", valueType := "integer", values := ["1"] }]

/-- As a number ten is above three, as a text `10` stands before `3`. An event without a status has
the one that is wanted when that is absent, too. -/
theorem value_holds_urgentTree : ∃ f, ofJson [] urgentTree = .ok f ∧
    (f.holds (eventOf "Outage" "integer" "2")).value = true ∧
    (f.holds (eventOf "Outage" "Integer" "10")).value = false ∧
    (f.holds (eventOf "Outage" "text" "10")).value = true ∧
    (f.holds (eventOf "Stand-up" "integer" "2")).value = true ∧
    (f.holds ({ name := "STATUS", values := ["CONFIRMED"] } ::
      eventOf "Stand-up" "integer" "2")).value = false := by
  have hread : (ofJson [] urgentTree).toOption.isSome = true := by cbv
  cases h : ofJson [] urgentTree with
  | error e => simp [h, Except.toOption] at hread
  | ok f =>
    refine ⟨f, rfl, ?_⟩
    simp only [value_holds_of_ofJson h]
    exact ⟨by decide +kernel, by decide +kernel, by decide +kernel, by decide +kernel,
      by decide +kernel⟩

end Filter

end CalendarRelay.Rule
