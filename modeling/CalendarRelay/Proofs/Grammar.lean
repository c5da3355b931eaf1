import CalendarRelay.Catalogue.Definition
import CalendarRelay.Proofs.Addresses
import CalendarRelay.Proofs.FilterReading
import CalendarRelay.Proofs.Symbols

namespace CalendarRelay

open Rule

namespace Rule

/-- The trees that define filters. -/
inductive IsFilter : Json → Prop
  | joint {j left right : Json}
    (key : j.get? "key" = some (.str "and") ∨ j.get? "key" = some (.str "or"))
    (left_eq : j.get? "left" = some left) (left_filter : IsFilter left)
    (right_eq : j.get? "right" = some right) (right_filter : IsFilter right) : IsFilter j
  | test {j : Json} {left operator right : String} {comparison : Comparison}
    (key : j.get? "key" = some (.str "if"))
    (left_eq : j.get? "left" = some (.str left))
    (operator_eq : j.get? "operator" = some (.str operator))
    (right_eq : j.get? "right" = some (.str right))
    (symbol : Text.sameName operator comparison.symbol = true)
    (negate : j.get? "negate" = none ∨ ∃ b, j.get? "negate" = some (.bool b))
    (pattern : comparison = .regex → ¬ "event.".toList <+: right.toList →
      (Pattern.ofText? right).isSome = true) : IsFilter j

/-- The arrays that define operations. -/
def IsOperation (j : Json) : Prop :=
  j = .arr [.str "remove"] ∨
    (∃ key value, j = .arr [.str "edit", .str key, .str value]) ∨
    ∃ key source template, j = .arr [.str "editRegex", .str key, .str source, .str template] ∧
      (Pattern.ofText? source).isSome = true

/-- The arrays that define lists of operations. -/
def IsOperationList (j : Json) : Prop :=
  ∃ items, j = .arr items ∧ ∀ item ∈ items, IsOperation item

/-- The objects that define rules. -/
def IsRule (j : Json) : Prop :=
  (∃ filter, j.get? "filter" = some filter ∧ IsFilter filter) ∧
    ∃ operations, j.get? "operations" = some operations ∧ IsOperationList operations

end Rule

/-- The objects that define sources of merged calendars. -/
def IsSource (j : Json) : Prop :=
  (∃ url, j.get? "url" = some (.str url)) ∧ ∃ b, j.get? "private" = some (.bool b)

/-- The objects that define filtered calendars. -/
def IsFilteredCalendar (j : Json) : Prop :=
  j.get? "type" = some (.str "filtered") ∧
    (∃ url, j.get? "url" = some (.str url) ∧ Address.IsFeedAddress url) ∧
    (j.get? "rules" = none ∨ ∃ items, j.get? "rules" = some (.arr items) ∧ ∀ j ∈ items, IsRule j)

/-- The objects that define merged calendars. -/
def IsMergedCalendar (j : Json) : Prop :=
  j.get? "type" = some (.str "merged") ∧
    ∃ items, j.get? "urls" = some (.arr items) ∧ items ≠ [] ∧ ∀ j ∈ items, IsSource j

theorem Json.exists_fields_of_get? {j v : Json} {key : String} (h : j.get? key = some v) :
    ∃ fields, j = .obj fields := by
  cases j with
  | obj fields => exact ⟨fields, rfl⟩
  | _ => simp [get?] at h

/-- A reader of the items of an array succeeds when it does on each of them. -/
theorem exists_items_iff {ε α : Type} (read : Nat → Json → Except ε α)
    (readAll : Nat → List Json → Except ε (List α)) {P : Json → Prop}
    (hnil : ∀ i, readAll i [] = .ok [])
    (hcons : ∀ i j rest, readAll i (j :: rest) =
      read i j >>= fun a => readAll (i + 1) rest >>= fun as => pure (a :: as))
    (hread : ∀ i j, (∃ a, read i j = .ok a) ↔ P j) (i : Nat) (items : List Json) :
    (∃ as, readAll i items = .ok as) ↔ ∀ j ∈ items, P j := by
  induction items generalizing i with
  | nil => simp [hnil]
  | cons j rest ih =>
    rw [List.forall_mem_cons, ← hread i j, ← ih (i + 1)]
    simp only [hcons, bind_eq_ok_iff]
    constructor
    · rintro ⟨_, a, ha, as, has, -⟩
      exact ⟨⟨a, ha⟩, as, has⟩
    · rintro ⟨⟨a, ha⟩, as, has⟩
      exact ⟨_, a, ha, as, has, rfl⟩

namespace Rule

theorem Operand.ofText_of_prefix {source : String} (h : "event.".toList <+: source.toList) :
    ∃ name, Operand.ofText source = .field name := by
  obtain ⟨rest, hrest⟩ := h
  have hmark : Text.afterMark? fieldMark source.toList = some rest :=
    Text.afterMark?_eq_some_iff.mpr hrest.symm
  exact ⟨String.ofList rest, by rw [ofText, hmark]⟩

theorem Operand.ofText_of_not_prefix {source : String}
    (h : ¬ "event.".toList <+: source.toList) : Operand.ofText source = .literal source := by
  have hmark : Text.afterMark? fieldMark source.toList = none := by
    by_contra hsome
    obtain ⟨rest, hrest⟩ := Option.ne_none_iff_exists'.mp hsome
    exact h ⟨rest, (Text.afterMark?_eq_some_iff.mp hrest).symm⟩
  rw [ofText, hmark]

/-- There is a condition of the given parts unless it holds a pattern that cannot be read. -/
theorem Condition.exists_make?_iff {left : Operand} {comparison : Comparison} {right : String}
    {negate : Bool} : (∃ c, make? left comparison (.ofText right) negate = some c) ↔
      (comparison = .regex → ¬ "event.".toList <+: right.toList →
        (Pattern.ofText? right).isSome = true) := by
  by_cases hc : comparison = .regex
  · subst hc
    by_cases hmark : "event.".toList <+: right.toList
    · obtain ⟨name, hname⟩ := Operand.ofText_of_prefix hmark
      rw [hname]
      exact ⟨fun _ _ hnot => absurd hmark hnot, fun _ => ⟨_, rfl⟩⟩
    · rw [Operand.ofText_of_not_prefix hmark]
      simp only [make?, Option.map_eq_some_iff, hmark, Option.isSome_iff_exists]
      simp
  · have hmake : make? left comparison (.ofText right) negate =
        some { left, comparison, right := .ofText right, negate } := by
      rw [make?]
      intro source hregex
      exact absurd hregex hc
    simp [hmake, hc]

/-- The trees that filters can be read from are the ones that define filters. -/
theorem Filter.exists_ofJson_iff (place : Json.Location) {j : Json} :
    (∃ f, Filter.ofJson place j = .ok f) ↔ IsFilter j := by
  constructor
  · rintro ⟨f, h⟩
    induction f generalizing place j with
    | always => exact absurd h ofJson_ne_always
    | leaf c =>
      obtain ⟨fields, rfl, hkey, hc⟩ := ofJson_leaf h
      obtain ⟨left, symbol, right, comparison, negate, hleft, hsymbol, hright, hcomparison,
        hnegate, hmake⟩ := conditionOf_eq_ok_iff.mp hc
      refine .test hkey hleft hsymbol hright (Comparison.ofSymbol?_eq_some_iff.mp hcomparison) ?_
        (Condition.exists_make?_iff.mp ⟨c, hmake⟩)
      exact hnegate.imp And.left fun hb => ⟨negate, hb⟩
    | and f g ihf ihg =>
      obtain ⟨fields, left, right, rfl, hkey, hleft, hright, hf, hg⟩ := ofJson_and h
      exact .joint (.inl hkey) hleft (ihf _ hf) hright (ihg _ hg)
    | or f g ihf ihg =>
      obtain ⟨fields, left, right, rfl, hkey, hleft, hright, hf, hg⟩ := ofJson_or h
      exact .joint (.inr hkey) hleft (ihf _ hf) hright (ihg _ hg)
  · intro h
    induction h generalizing place with
    | @joint j left right key left_eq _ right_eq _ ihl ihr =>
      obtain ⟨fields, rfl⟩ := Json.exists_fields_of_get? left_eq
      obtain ⟨f, hf⟩ := ihl (place ++ [.key "left"])
      obtain ⟨g, hg⟩ := ihr (place ++ [.key "right"])
      rcases key with hkey | hkey
      · exact ⟨.and f g, ofJson_eq_ok_iff.mpr
          ⟨fields, rfl, .inr ⟨left, right, f, g, left_eq, right_eq, hf, hg, .inl ⟨hkey, rfl⟩⟩⟩⟩
      · exact ⟨.or f g, ofJson_eq_ok_iff.mpr
          ⟨fields, rfl, .inr ⟨left, right, f, g, left_eq, right_eq, hf, hg, .inr ⟨hkey, rfl⟩⟩⟩⟩
    | @test j left operator right comparison key left_eq operator_eq right_eq symbol negate
        pattern =>
      obtain ⟨fields, rfl⟩ := Json.exists_fields_of_get? key
      have hcomparison := Comparison.ofSymbol?_eq_some_iff.mpr symbol
      obtain ⟨b, hb⟩ : ∃ b, Json.lookup? fields "negate" = none ∧ b = false ∨
          Json.lookup? fields "negate" = some (.bool b) := by
        rcases negate with hnone | ⟨b, hb⟩
        · exact ⟨false, .inl ⟨hnone, rfl⟩⟩
        · exact ⟨b, .inr hb⟩
      obtain ⟨c, hmake⟩ : ∃ c, Condition.make? (.ofText left) comparison (.ofText right) b =
          some c := Condition.exists_make?_iff.mpr pattern
      have hc : conditionOf place fields = .ok c := conditionOf_eq_ok_iff.mpr
        ⟨left, operator, right, comparison, b, left_eq, operator_eq, right_eq, hcomparison, hb,
          hmake⟩
      exact ⟨.leaf c, ofJson_eq_ok_iff.mpr ⟨fields, rfl, .inl ⟨key, c, hc, rfl⟩⟩⟩

namespace Operation

theorem arguments_eq_ok_iff {place : Json.Location} {items : List Json} {args : List String} :
    arguments place items = .ok args ↔ items = args.map Json.str := by
  induction items generalizing args with
  | nil =>
    cases args <;> simp [arguments]
  | cons j rest ih =>
    cases j with
    | str s =>
      rw [arguments, map_eq_ok_iff]
      cases args with
      | nil => simp
      | cons t args => simp [ih, and_comm]
    | _ => cases args <;> simp [arguments]

theorem ofName?_eq_some_iff {s : String} {kind : OperationKind} :
    OperationKind.ofName? s = some kind ↔ s = kind.name := by
  constructor
  · intro h
    have hname := List.find?_some h
    exact (beq_iff_eq.mp hname).symm
  · rintro rfl
    cases kind <;> decide

theorem kindOf?_eq_some_iff {items : List Json} {kind : OperationKind} :
    kindOf? items = some kind ↔ ∃ rest, items = .str kind.name :: rest := by
  cases items with
  | nil => simp [kindOf?]
  | cons j rest =>
    cases j with
    | str s => simp [kindOf?, Json.string?, ofName?_eq_some_iff]
    | _ => simp [kindOf?, Json.string?]

/-- An operation is read from its name and its arguments, when there are as many as are due. -/
theorem ofJson_eq_ok_iff {place : Json.Location} {j : Json} {op : Operation} :
    ofJson place j = .ok op ↔ ∃ kind args, j = .arr (.str kind.name :: args.map Json.str) ∧
      args.length + 1 = kind.arity ∧ ofArguments place j kind args = .ok op := by
  cases j with
  | arr items =>
    simp only [ofJson, Json.items?]
    constructor
    · intro h
      split at h
      · rename_i kind hkind
        obtain ⟨rest, rfl⟩ := kindOf?_eq_some_iff.mp hkind
        split at h
        · simp at h
        · rename_i hlength
          obtain ⟨args, hargs, hop⟩ := bind_eq_ok_iff.mp h
          obtain rfl : rest = args.map Json.str := arguments_eq_ok_iff.mp hargs
          exact ⟨kind, args, rfl, by simpa using hlength, hop⟩
      · simp at h
    · rintro ⟨kind, args, hj, hlength, hop⟩
      obtain rfl := Json.arr.inj hj
      rw [kindOf?_eq_some_iff.mpr ⟨_, rfl⟩]
      simp only [List.length_cons, List.length_map, hlength, ne_eq, not_true_eq_false, if_false]
      exact bind_eq_ok_iff.mpr ⟨args, arguments_eq_ok_iff.mpr rfl, hop⟩
  | _ => simp [ofJson, Json.items?]

theorem exists_ofArguments_iff {place : Json.Location} {found : Json} {kind : OperationKind}
    {args : List String} : (∃ op, ofArguments place found kind args = .ok op) ↔
      kind = .remove ∧ args = [] ∨ (∃ key value, kind = .edit ∧ args = [key, value]) ∨
      ∃ key source template, kind = .editRegex ∧ args = [key, source, template] ∧
        (Pattern.ofText? source).isSome = true := by
  unfold ofArguments
  split
  · simp
  · simp
  · rename_i key source template
    cases hp : Pattern.ofText? source with
    | none => simp [hp]
    | some p => simp [hp]
  · rename_i hremove hedit hregex
    constructor
    · rintro ⟨op, h⟩
      simp at h
    · rintro (⟨rfl, rfl⟩ | ⟨key, value, rfl, rfl⟩ | ⟨key, source, template, rfl, rfl, -⟩)
      · exact (hremove rfl rfl).elim
      · exact (hedit key value rfl rfl).elim
      · exact (hregex key source template rfl rfl).elim

/-- The arrays that operations can be read from are the ones that define operations. -/
theorem exists_ofJson_iff {place : Json.Location} {j : Json} :
    (∃ op, ofJson place j = .ok op) ↔ IsOperation j := by
  simp only [ofJson_eq_ok_iff]
  constructor
  · rintro ⟨op, kind, args, hj, -, hop⟩
    rw [hj]
    rcases exists_ofArguments_iff.mp ⟨op, hop⟩ with ⟨rfl, rfl⟩ | ⟨key, value, rfl, rfl⟩ |
      ⟨key, source, template, rfl, rfl, hp⟩
    · exact .inl rfl
    · exact .inr (.inl ⟨key, value, rfl⟩)
    · exact .inr (.inr ⟨key, source, template, rfl, hp⟩)
  · rintro (rfl | ⟨key, value, rfl⟩ | ⟨key, source, template, rfl, hp⟩)
    · exact ⟨.remove, .remove, [], rfl, rfl, rfl⟩
    · exact ⟨.edit key value, .edit, [key, value], rfl, rfl, rfl⟩
    · obtain ⟨op, hop⟩ := exists_ofArguments_iff.mpr
        (.inr (.inr ⟨key, source, template, rfl, rfl, hp⟩))
      exact ⟨op, .editRegex, [key, source, template], rfl, rfl, hop⟩

theorem exists_listOfJson_iff (place : Json.Location) {j : Json} :
    (∃ ops, listOfJson place j = .ok ops) ↔ IsOperationList j := by
  have hitems := exists_items_iff (fun i => ofJson (place ++ [.index i])) (ofItems place)
    (fun _ => rfl) (fun _ _ _ => rfl) (fun _ _ => exists_ofJson_iff) 0
  cases j with
  | arr items => simpa [listOfJson, Json.items?, IsOperationList] using hitems items
  | _ => simp [listOfJson, Json.items?, IsOperationList]

end Operation

end Rule

namespace Definition

theorem field_eq_ok_iff {place : Json.Location} {fields : List (String × Json)} {name : String}
    {j : Json} : field place fields name = .ok j ↔ Json.lookup? fields name = some j := by
  rw [field]
  split
  · rename_i found hfound
    simp [hfound]
  · rename_i hnone
    simp [hnone]

theorem exists_ruleOfJson_iff {place : Json.Location} {j : Json} :
    (∃ rule, ruleOfJson place j = .ok rule) ↔ IsRule j := by
  cases j with
  | obj fields =>
    simp only [ruleOfJson, Json.fields?, bind_eq_ok_iff, field_eq_ok_iff, IsRule, Json.get?,
      ← Filter.exists_ofJson_iff (place ++ [.key "filter"]),
      ← Operation.exists_listOfJson_iff (place ++ [.key "operations"])]
    constructor
    · rintro ⟨_, tree, htree, filter, hfilter, found, hfound, operations, hoperations, -⟩
      exact ⟨⟨tree, htree, filter, hfilter⟩, found, hfound, operations, hoperations⟩
    · rintro ⟨⟨tree, htree, filter, hfilter⟩, found, hfound, operations, hoperations⟩
      exact ⟨_, tree, htree, filter, hfilter, found, hfound, operations, hoperations, rfl⟩
  | _ => simp [ruleOfJson, Json.fields?, IsRule, Json.get?]

theorem exists_sourceOfJson_iff {place : Json.Location} {j : Json} :
    (∃ source, sourceOfJson place j = .ok source) ↔ IsSource j := by
  cases j with
  | obj fields =>
    simp only [sourceOfJson, Json.fields?, bind_eq_ok_iff, field_eq_ok_iff, IsSource, Json.get?]
    constructor
    · rintro ⟨source, found, hurl, h⟩
      split at h
      · rename_i url
        obtain ⟨_, -, other, hprivate, h⟩ := by simpa only [bind_eq_ok_iff, field_eq_ok_iff] using h
        split at h
        · rename_i b
          exact ⟨⟨url, hurl⟩, b, hprivate⟩
        · simp [bind, Except.bind] at h
      · simp [bind, Except.bind] at h
    · rintro ⟨⟨url, hurl⟩, b, hprivate⟩
      refine ⟨⟨url, b⟩, _, hurl, ?_⟩
      exact bind_eq_ok_iff.mpr ⟨url, rfl, bind_eq_ok_iff.mpr ⟨_, field_eq_ok_iff.mpr hprivate, rfl⟩⟩
  | _ => simp [sourceOfJson, Json.fields?, IsSource, Json.get?]

theorem exists_rulesOfItems_iff (items : List Json) :
    (∃ rules, rulesOfItems 0 items = .ok rules) ↔ ∀ j ∈ items, IsRule j :=
  exists_items_iff (fun i => ruleOfJson [.key "rules", .index i]) rulesOfItems (fun _ => rfl)
    (fun _ _ _ => rfl) (fun _ _ => exists_ruleOfJson_iff) 0 items

theorem exists_sourcesOfItems_iff (items : List Json) :
    (∃ sources, sourcesOfItems 0 items = .ok sources) ↔ ∀ j ∈ items, IsSource j :=
  exists_items_iff (fun i => sourceOfJson [.key "urls", .index i]) sourcesOfItems (fun _ => rfl)
    (fun _ _ _ => rfl) (fun _ _ => exists_sourceOfJson_iff) 0 items

theorem filter_string?_eq_some_iff {found : Json} {url : String} :
    found.string?.filter Address.isFeedUrl = some url ↔
      found = .str url ∧ Address.IsFeedAddress url := by
  rw [Option.filter_eq_some_iff, Address.isFeedUrl_iff]
  cases found <;> simp [Json.string?]

theorem exists_filteredOfFields_iff (name : String) {fields : List (String × Json)} :
    (∃ d, filteredOfFields name fields = .ok d) ↔
      (∃ url, Json.lookup? fields "url" = some (.str url) ∧ Address.IsFeedAddress url) ∧
      (Json.lookup? fields "rules" = none ∨
        ∃ items, Json.lookup? fields "rules" = some (.arr items) ∧ ∀ j ∈ items, IsRule j) := by
  simp only [filteredOfFields, bind_eq_ok_iff, field_eq_ok_iff]
  constructor
  · rintro ⟨d, found, hfound, h⟩
    split at h
    · rename_i url hurl
      obtain ⟨rfl, haddress⟩ := filter_string?_eq_some_iff.mp hurl
      refine ⟨⟨url, hfound, haddress⟩, ?_⟩
      split at h
      · rename_i hnone
        exact .inl hnone
      · rename_i items hitems
        obtain ⟨rules, hrules, -⟩ := bind_eq_ok_iff.mp h
        exact .inr ⟨items, hitems, (exists_rulesOfItems_iff items).mp ⟨rules, hrules⟩⟩
      · simp at h
    · simp at h
  · rintro ⟨⟨url, hfound, haddress⟩, hrules⟩
    have hurl := filter_string?_eq_some_iff.mpr ⟨rfl, haddress⟩
    rcases hrules with hnone | ⟨items, hitems, hall⟩
    · refine ⟨.filtered name url [], _, hfound, ?_⟩
      rw [hurl, hnone]
      rfl
    · obtain ⟨rules, hrules⟩ := (exists_rulesOfItems_iff items).mpr hall
      refine ⟨.filtered name url rules, _, hfound, ?_⟩
      rw [hurl, hitems]
      exact bind_eq_ok_iff.mpr ⟨rules, hrules, rfl⟩

theorem exists_mergedOfFields_iff (name : String) {fields : List (String × Json)} :
    (∃ d, mergedOfFields name fields = .ok d) ↔
      ∃ items, Json.lookup? fields "urls" = some (.arr items) ∧ items ≠ [] ∧
        ∀ j ∈ items, IsSource j := by
  simp only [mergedOfFields, bind_eq_ok_iff, field_eq_ok_iff]
  constructor
  · rintro ⟨d, found, hfound, h⟩
    split at h
    · simp at h
    · rename_i items hne
      obtain ⟨sources, hsources, -⟩ := bind_eq_ok_iff.mp h
      exact ⟨items, hfound, hne, (exists_sourcesOfItems_iff items).mp ⟨sources, hsources⟩⟩
    · simp at h
  · rintro ⟨items, hfound, hne, hall⟩
    obtain ⟨sources, hsources⟩ := (exists_sourcesOfItems_iff items).mpr hall
    refine ⟨.merged name sources, _, hfound, ?_⟩
    cases items with
    | nil => exact absurd rfl hne
    | cons j rest => exact bind_eq_ok_iff.mpr ⟨sources, hsources, rfl⟩

theorem string?_eq_some_iff {found : Json} {s : String} :
    found.string? = some s ↔ found = .str s := by
  cases found <;> simp [Json.string?]

theorem exists_bodyOfJson_iff (name : String) {j : Json} :
    (∃ d, bodyOfJson name j = .ok d) ↔ IsFilteredCalendar j ∨ IsMergedCalendar j := by
  cases j with
  | obj fields =>
    simp only [bodyOfJson, Json.fields?, bind_eq_ok_iff, field_eq_ok_iff, IsFilteredCalendar,
      IsMergedCalendar, Json.get?, ← exists_filteredOfFields_iff name,
      ← exists_mergedOfFields_iff name]
    constructor
    · rintro ⟨d, found, hfound, h⟩
      split at h
      · rename_i htype
        obtain rfl := string?_eq_some_iff.mp htype
        exact .inl ⟨hfound, d, h⟩
      · split at h
        · rename_i htype
          obtain rfl := string?_eq_some_iff.mp htype
          exact .inr ⟨hfound, d, h⟩
        · simp at h
    · rintro (⟨hfound, d, h⟩ | ⟨hfound, d, h⟩)
      · exact ⟨d, _, hfound, h⟩
      · exact ⟨d, _, hfound, h⟩
  | _ => simp [bodyOfJson, Json.fields?, IsFilteredCalendar, IsMergedCalendar, Json.get?]

theorem mapError_eq_ok_iff {ε ε' α : Type} {f : ε → ε'} {x : Except ε α} {a : α} :
    x.mapError f = .ok a ↔ x = .ok a := by
  cases x <;> simp [Except.mapError]

/-- A definition is accepted exactly when its name is one that calendars may have and its body
defines a filtered or a merged calendar. -/
theorem exists_ofJson_iff_isCalendar {name : String} {j : Json} :
    (∃ d, Definition.ofJson name j = .ok d) ↔
      Address.IsName name ∧ (IsFilteredCalendar j ∨ IsMergedCalendar j) := by
  rw [← Address.isCalendarName_iff, ← exists_bodyOfJson_iff name]
  cases hname : Address.isCalendarName name with
  | false => simp [Definition.ofJson, hname]
  | true => simp [Definition.ofJson, hname, mapError_eq_ok_iff]

end Definition

end CalendarRelay
