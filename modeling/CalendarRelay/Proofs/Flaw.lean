import CalendarRelay.Proofs.Grammar

namespace CalendarRelay

open Rule

namespace Rule

/-- The key of a branch in the node of a joint. -/
def Side.key : Side → String
  | left => "left"
  | right => "right"

/-- A node of a rule: the rule itself, a node of its filter by the turns that lead to it, the
operations, or one of them. -/
inductive Spot
  | rule
  | filter (turns : List Side)
  | operations
  | operation (index : Nat)

namespace Spot

/-- The way from a rule to one of its nodes. -/
def location : Spot → Json.Location
  | rule => []
  | filter turns => .key "filter" :: turns.map fun side => .key side.key
  | operations => [.key "operations"]
  | operation index => [.key "operations", .index index]

/-- How a node is written in a message, after the number of its rule. -/
def text : Spot → String
  | rule => ""
  | filter turns => ".filter" ++ String.join (turns.map fun side => "." ++ side.key)
  | operations => ".operations"
  | operation index => ".operations[" ++ toString index ++ "]"

end Spot

/-- What is wrong with a node of a filter by itself, whatever its branches are. -/
inductive FilterFlaw : Json → Cause → Prop
  | notObject {j : Json} (h : ∀ fields, j ≠ .obj fields) : FilterFlaw j .filterNotObject
  | keyMissing {fields : List (String × Json)} (h : Json.lookup? fields "key" = none) :
    FilterFlaw (.obj fields) .keyMissing
  | unknownKey {fields : List (String × Json)} {found : Json}
    (h : Json.lookup? fields "key" = some found)
    (hunknown : ∀ key ∈ ["and", "or", "if"], found ≠ .str key) :
    FilterFlaw (.obj fields) (.unknownKey found)
  | branchMissing {fields : List (String × Json)} {key : String} (side : Side)
    (hkey : Json.lookup? fields "key" = some (.str key)) (hjoint : key = "and" ∨ key = "or")
    (h : Json.lookup? fields side.key = none) :
    FilterFlaw (.obj fields) (.branchMissing key side.key)
  | operandMissing {fields : List (String × Json)} {name : String}
    (hkey : Json.lookup? fields "key" = some (.str "if"))
    (hname : name ∈ ["left", "operator", "right"]) (h : Json.lookup? fields name = none) :
    FilterFlaw (.obj fields) (.operandMissing name)
  | operandNotString {fields : List (String × Json)} {name : String} {found : Json}
    (hkey : Json.lookup? fields "key" = some (.str "if"))
    (hname : name ∈ ["left", "operator", "right"]) (h : Json.lookup? fields name = some found)
    (hfound : ∀ s, found ≠ .str s) : FilterFlaw (.obj fields) (.operandNotString name)
  | unknownOperator {fields : List (String × Json)} {symbol : String}
    (hkey : Json.lookup? fields "key" = some (.str "if"))
    (h : Json.lookup? fields "operator" = some (.str symbol))
    (hunknown : ∀ c : Comparison, Text.sameName symbol c.symbol = false) :
    FilterFlaw (.obj fields) (.unknownOperator symbol)
  | negateNotBool {fields : List (String × Json)} {found : Json}
    (hkey : Json.lookup? fields "key" = some (.str "if"))
    (h : Json.lookup? fields "negate" = some found) (hfound : ∀ b, found ≠ .bool b) :
    FilterFlaw (.obj fields) (.negateNotBool found)
  | invalidPattern {fields : List (String × Json)} {symbol source : String}
    (hkey : Json.lookup? fields "key" = some (.str "if"))
    (hsymbol : Json.lookup? fields "operator" = some (.str symbol))
    (hregex : Text.sameName symbol Comparison.regex.symbol = true)
    (h : Json.lookup? fields "right" = some (.str source))
    (hliteral : ¬ "event.".toList <+: source.toList) (hsource : Pattern.ofText? source = none) :
    FilterFlaw (.obj fields) (.invalidPattern source)

/-- What is wrong with an operation. -/
inductive OperationFlaw : Json → Cause → Prop
  | notArray {j : Json} (h : ∀ items, j ≠ .arr items) : OperationFlaw j (.operationNotArray j)
  | unknown {items : List Json}
    (h : ∀ (kind : OperationKind) rest, items ≠ .str kind.name :: rest) :
    OperationFlaw (.arr items) (.unknownOperation (.arr items))
  | wrongLength {kind : OperationKind} {items rest : List Json}
    (hitems : items = .str kind.name :: rest) (h : items.length ≠ kind.arity) :
    OperationFlaw (.arr items) (.wrongLength kind.name kind.arity items.length (.arr items))
  | argumentNotString {kind : OperationKind} {rest : List Json} {found : Json}
    (h : found ∈ rest) (hfound : ∀ s, found ≠ .str s) :
    OperationFlaw (.arr (.str kind.name :: rest)) (.argumentNotString found)
  | invalidPattern {key source template : String} (h : Pattern.ofText? source = none) :
    OperationFlaw (.arr [.str "editRegex", .str key, .str source, .str template])
      (.invalidPattern source)

/-- What is wrong with a list of operations as a whole. -/
inductive OperationListFlaw : Json → Cause → Prop
  | notArray {j : Json} (h : ∀ items, j ≠ .arr items) : OperationListFlaw j .operationsNotArray

/-- What is wrong with a rule by itself, whatever its filter and its operations are. -/
inductive RuleFlaw : Json → Cause → Prop
  | notObject {j : Json} (h : ∀ fields, j ≠ .obj fields) : RuleFlaw j .ruleNotObject
  | fieldMissing {fields : List (String × Json)} {name : String}
    (hname : name ∈ ["filter", "operations"]) (h : Json.lookup? fields name = none) :
    RuleFlaw (.obj fields) (.missing name)

/-- The turns lead from one node of a filter to another. Whatever they pass on their left is a
filter. -/
inductive LeadsTo : Json → List Side → Json → Prop
  | here (j : Json) : LeadsTo j [] j
  | left {j left right node : Json} {turns : List Side}
    (key : j.get? "key" = some (.str "and") ∨ j.get? "key" = some (.str "or"))
    (left_eq : j.get? "left" = some left) (right_eq : j.get? "right" = some right)
    (leads : LeadsTo left turns node) : LeadsTo j (.left :: turns) node
  | right {j left right node : Json} {turns : List Side}
    (key : j.get? "key" = some (.str "and") ∨ j.get? "key" = some (.str "or"))
    (left_eq : j.get? "left" = some left) (left_filter : IsFilter left)
    (right_eq : j.get? "right" = some right) (leads : LeadsTo right turns node) :
    LeadsTo j (.right :: turns) node

/-- The first node of a rule that is wrong by itself, and in which way. What is read before it is
right: the filter before the operations, and each operation before the ones after it. -/
inductive FirstFlaw : Json → Spot → Json → Cause → Prop
  | rule {j : Json} {cause : Cause} (flaw : RuleFlaw j cause)
    (before : ∀ filter, j.get? "filter" = some filter → IsFilter filter) :
    FirstFlaw j .rule j cause
  | filter {j filter node : Json} {turns : List Side} {cause : Cause}
    (h : j.get? "filter" = some filter) (leads : LeadsTo filter turns node)
    (flaw : FilterFlaw node cause) : FirstFlaw j (.filter turns) node cause
  | operations {j filter node : Json} {cause : Cause} (before : j.get? "filter" = some filter)
    (isFilter : IsFilter filter) (h : j.get? "operations" = some node)
    (flaw : OperationListFlaw node cause) : FirstFlaw j .operations node cause
  | operation {j filter node : Json} {items : List Json} {index : Nat} {cause : Cause}
    (before : j.get? "filter" = some filter) (isFilter : IsFilter filter)
    (h : j.get? "operations" = some (.arr items)) (hnode : items[index]? = some node)
    (earlier : ∀ item ∈ items.take index, IsOperation item) (flaw : OperationFlaw node cause) :
    FirstFlaw j (.operation index) node cause

theorem LeadsTo.at? {j node : Json} {turns : List Side} (h : LeadsTo j turns node) :
    j.at? (turns.map fun side => .key side.key) = some node := by
  induction h with
  | here => rfl
  | left _ left_eq _ _ ih =>
    rw [List.map_cons, Json.at?, Json.step?, Side.key, left_eq, Option.bind_some, ih]
  | right _ _ _ right_eq _ ih =>
    rw [List.map_cons, Json.at?, Json.step?, Side.key, right_eq, Option.bind_some, ih]

/-- The way to a flaw can be followed to its end. -/
theorem FirstFlaw.at? {j node : Json} {spot : Spot} {cause : Cause}
    (h : FirstFlaw j spot node cause) : j.at? spot.location = some node := by
  cases h with
  | rule => rfl
  | filter h leads =>
    rw [Spot.location, Json.at?, Json.step?, h, Option.bind_some, leads.at?]
  | operations _ _ h =>
    rw [Spot.location, Json.at?, Json.step?, h, Option.bind_some, Json.at?_nil]
  | operation _ _ h hnode =>
    simp only [Spot.location, Json.at?, Json.step?, h, Json.items?, hnode, Option.bind_some]

theorem joint_key {fields : List (String × Json)} {key : String}
    (hkey : Json.lookup? fields "key" = some (.str key)) (h : key = "and" ∨ key = "or") :
    (Json.obj fields).get? "key" = some (.str "and") ∨
      (Json.obj fields).get? "key" = some (.str "or") := by
  rcases h with rfl | rfl
  · exact .inl hkey
  · exact .inr hkey

namespace IsFilter

variable {j : Json}

theorem exists_key (h : IsFilter j) :
    ∃ key ∈ ["and", "or", "if"], j.get? "key" = some (.str key) := by
  cases h with
  | joint key => simpa using key.imp_right .inl
  | test key => exact ⟨"if", by simp, key⟩

theorem exists_branches (h : IsFilter j)
    (hkey : j.get? "key" = some (.str "and") ∨ j.get? "key" = some (.str "or")) :
    ∃ left right, j.get? "left" = some left ∧ IsFilter left ∧
      j.get? "right" = some right ∧ IsFilter right := by
  cases h with
  | @joint _ left right _ left_eq left_filter right_eq right_filter =>
    exact ⟨left, right, left_eq, left_filter, right_eq, right_filter⟩
  | test key => simp [key] at hkey

theorem exists_operands (h : IsFilter j) (hkey : j.get? "key" = some (.str "if")) :
    ∃ left symbol right comparison, j.get? "left" = some (.str left) ∧
      j.get? "operator" = some (.str symbol) ∧ j.get? "right" = some (.str right) ∧
      (j.get? "negate" = none ∨ ∃ b, j.get? "negate" = some (.bool b)) ∧
      Comparison.ofSymbol? symbol = some comparison ∧
      (comparison = .regex → ¬ "event.".toList <+: right.toList →
        (Pattern.ofText? right).isSome = true) := by
  cases h with
  | joint key => simp [hkey] at key
  | @test _ left operator right comparison _ left_eq operator_eq right_eq symbol negate pattern =>
    exact ⟨left, operator, right, comparison, left_eq, operator_eq, right_eq, negate,
      Comparison.ofSymbol?_eq_some_iff.mpr symbol, pattern⟩

theorem exists_operand (h : IsFilter j) (hkey : j.get? "key" = some (.str "if")) {name : String}
    (hname : name ∈ ["left", "operator", "right"]) : ∃ s, j.get? name = some (.str s) := by
  obtain ⟨left, symbol, right, -, hleft, hsymbol, hright, -⟩ := h.exists_operands hkey
  simp only [List.mem_cons, List.not_mem_nil, or_false] at hname
  rcases hname with rfl | rfl | rfl
  · exact ⟨left, hleft⟩
  · exact ⟨symbol, hsymbol⟩
  · exact ⟨right, hright⟩

end IsFilter

/-- What has a flaw is no filter. -/
theorem FilterFlaw.not_isFilter {j : Json} {cause : Cause} (h : FilterFlaw j cause) :
    ¬ IsFilter j := by
  intro hfilter
  cases h with
  | notObject h =>
    obtain ⟨key, -, hkey⟩ := hfilter.exists_key
    obtain ⟨fields, hfields⟩ := Json.exists_fields_of_get? hkey
    exact h fields hfields
  | keyMissing h =>
    obtain ⟨key, -, hkey⟩ := hfilter.exists_key
    cases h.symm.trans hkey
  | unknownKey h hunknown =>
    obtain ⟨key, hmem, hkey⟩ := hfilter.exists_key
    exact hunknown key hmem (Option.some.inj (h.symm.trans hkey))
  | branchMissing side hkey hjoint h =>
    obtain ⟨left, right, hleft, -, hright, -⟩ := hfilter.exists_branches (joint_key hkey hjoint)
    cases side with
    | left => cases h.symm.trans hleft
    | right => cases h.symm.trans hright
  | operandMissing hkey hname h =>
    obtain ⟨s, hs⟩ := hfilter.exists_operand hkey hname
    cases h.symm.trans hs
  | operandNotString hkey hname h hfound =>
    obtain ⟨s, hs⟩ := hfilter.exists_operand hkey hname
    exact hfound s (Option.some.inj (h.symm.trans hs))
  | unknownOperator hkey h hunknown =>
    obtain ⟨-, symbol, -, c, -, hsymbol, -, -, hc, -⟩ := hfilter.exists_operands hkey
    obtain rfl := Json.str.inj (Option.some.inj (h.symm.trans hsymbol))
    have hsame := Comparison.ofSymbol?_eq_some_iff.mp hc
    rw [hunknown c] at hsame
    cases hsame
  | negateNotBool hkey h hfound =>
    obtain ⟨-, -, -, -, -, -, -, hnone | ⟨b, hb⟩, -⟩ := hfilter.exists_operands hkey
    · cases h.symm.trans hnone
    · exact hfound b (Option.some.inj (h.symm.trans hb))
  | invalidPattern hkey hsymbol hregex h hliteral hsource =>
    obtain ⟨-, symbol, source, c, -, hsymbol', hright, -, hc, hpattern⟩ :=
      hfilter.exists_operands hkey
    obtain rfl := Json.str.inj (Option.some.inj (hsymbol.symm.trans hsymbol'))
    obtain rfl := Json.str.inj (Option.some.inj (h.symm.trans hright))
    -- the symbol names one comparison only
    have hc' := Comparison.ofSymbol?_eq_some_iff.mpr hregex
    have hsome := hpattern (Option.some.inj (hc.symm.trans hc')) hliteral
    rw [hsource] at hsome
    cases hsome

theorem LeadsTo.not_isFilter {j node : Json} {turns : List Side} (h : LeadsTo j turns node)
    (hnode : ¬ IsFilter node) : ¬ IsFilter j := by
  induction h with
  | here => exact hnode
  | left key left_eq _ _ ih =>
    intro hfilter
    obtain ⟨left, -, hleft, hisFilter, -⟩ := hfilter.exists_branches key
    obtain rfl := Option.some.inj (left_eq.symm.trans hleft)
    exact ih hnode hisFilter
  | right key _ _ right_eq _ ih =>
    intro hfilter
    obtain ⟨-, right, -, -, hright, hisFilter⟩ := hfilter.exists_branches key
    obtain rfl := Option.some.inj (right_eq.symm.trans hright)
    exact ih hnode hisFilter

theorem IsOperation.exists_texts {j : Json} (h : IsOperation j) :
    ∃ (kind : OperationKind) (args : List String),
      j = .arr (.str kind.name :: args.map Json.str) ∧ args.length + 1 = kind.arity := by
  obtain ⟨op, hop⟩ : ∃ op, Operation.ofJson [] j = .ok op := Operation.exists_ofJson_iff.mpr h
  obtain ⟨kind, args, hj, hlength, -⟩ := Operation.ofJson_eq_ok_iff.mp hop
  exact ⟨kind, args, hj, hlength⟩

/-- What has a flaw is no operation. -/
theorem OperationFlaw.not_isOperation {j : Json} {cause : Cause} (h : OperationFlaw j cause) :
    ¬ IsOperation j := by
  intro hoperation
  obtain ⟨kind, args, hj, hlength⟩ := hoperation.exists_texts
  cases h with
  | notArray h => exact h _ hj
  | unknown h => exact h kind _ (Json.arr.inj hj)
  | @wrongLength kind' items rest hitems h =>
    obtain rfl := Json.arr.inj hj
    obtain ⟨hname, -⟩ := List.cons.inj hitems
    -- a name is the name of one kind only
    have hkind := Operation.ofName?_eq_some_iff.mpr (Json.str.inj hname)
    rw [Operation.ofName?_eq_some_iff.mpr rfl] at hkind
    obtain rfl := Option.some.inj hkind
    exact h (by simpa using hlength)
  | argumentNotString h hfound =>
    obtain ⟨-, hrest⟩ := List.cons.inj (Json.arr.inj hj)
    rw [hrest] at h
    obtain ⟨s, -, hs⟩ := List.mem_map.mp h
    exact hfound s hs.symm
  | invalidPattern h => simp [IsOperation, h] at hoperation

/-- What has a flaw somewhere is no rule. -/
theorem FirstFlaw.not_isRule {j node : Json} {spot : Spot} {cause : Cause}
    (h : FirstFlaw j spot node cause) : ¬ IsRule j := by
  intro hrule
  obtain ⟨⟨filter, hfilter, hisFilter⟩, operations, hoperations, items, rfl, hitems⟩ := hrule
  cases h with
  | rule flaw =>
    cases flaw with
    | notObject h =>
      obtain ⟨fields, hfields⟩ := Json.exists_fields_of_get? hfilter
      exact h fields hfields
    | fieldMissing hname h =>
      simp only [List.mem_cons, List.not_mem_nil, or_false] at hname
      rcases hname with rfl | rfl
      · cases h.symm.trans hfilter
      · cases h.symm.trans hoperations
  | filter h leads flaw =>
    obtain rfl := Option.some.inj (h.symm.trans hfilter)
    exact leads.not_isFilter flaw.not_isFilter hisFilter
  | operations _ _ h flaw =>
    obtain rfl := Option.some.inj (h.symm.trans hoperations)
    cases flaw with
    | notArray h => exact h items rfl
  | operation _ _ h hnode _ flaw =>
    obtain rfl := Json.arr.inj (Option.some.inj (h.symm.trans hoperations))
    exact flaw.not_isOperation (hitems node (List.mem_of_getElem? hnode))

theorem locationText_turns (turns : List Side) :
    Json.locationText.go (turns.map fun side => .key side.key) =
      String.join (turns.map fun side => "." ++ side.key) := by
  induction turns with
  | nil => rfl
  | cons side turns ih =>
    rw [List.map_cons, List.map_cons, Json.locationText.go, ih, String.join_cons]

/-- A way to a node reads as it is written in messages. -/
theorem Spot.locationText_eq (i : Nat) (spot : Spot) :
    Json.locationText ([.key "rules", .index i] ++ spot.location) =
      "rules[" ++ toString i ++ "]" ++ spot.text := by
  have hgo : Json.locationText.go spot.location = spot.text := by
    cases spot with
    | rule => rfl
    | filter turns =>
      rw [location, Json.locationText.go, locationText_turns, text]
      rfl
    | operations => rfl
    | operation index =>
      simp only [location, Json.locationText.go, text, String.append_empty]
      rw [← String.append_assoc, ← String.append_assoc]
      rfl
  rw [List.cons_append, List.cons_append, List.nil_append, Json.locationText,
    Json.locationText.go, hgo]
  simp only [← String.append_assoc]
  rfl

end Rule

end CalendarRelay
