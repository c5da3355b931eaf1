import CalendarRelay.Proofs.Flaw

namespace CalendarRelay

open Rule

/-- A reader of the items of an array that fails does so at the first item that cannot be read. -/
theorem exists_first_of_items {ε α : Type} (read : Nat → Json → Except ε α)
    (readAll : Nat → List Json → Except ε (List α)) {P : Json → Prop}
    (hnil : ∀ i, readAll i [] = .ok [])
    (hcons : ∀ i j rest, readAll i (j :: rest) =
      read i j >>= fun a => readAll (i + 1) rest >>= fun as => pure (a :: as))
    (hread : ∀ i j, (∃ a, read i j = .ok a) ↔ P j) {i : Nat} {items : List Json} {e : ε}
    (h : readAll i items = .error e) :
    ∃ k j, items[k]? = some j ∧ read (i + k) j = .error e ∧
      ∀ earlier ∈ items.take k, P earlier := by
  induction items generalizing i with
  | nil =>
    rw [hnil] at h
    cases h
  | cons j rest ih =>
    rw [hcons] at h
    rcases bind_eq_error_iff.mp h with hj | ⟨a, ha, h⟩
    · exact ⟨0, j, rfl, hj, by simp⟩
    · rcases bind_eq_error_iff.mp h with hrest | ⟨as, -, h⟩
      · obtain ⟨k, found, hfound, herror, hearlier⟩ := ih hrest
        refine ⟨k + 1, found, hfound, ?_, ?_⟩
        · rw [← herror, Nat.add_right_comm, Nat.add_assoc]
        · rw [List.take_succ_cons, List.forall_mem_cons]
          exact ⟨(hread i j).mp ⟨a, ha⟩, hearlier⟩
      · cases h

theorem mapError_eq_error_iff {ε ε' α : Type} {x : Except ε α} {f : ε → ε'} {e : ε'} :
    x.mapError f = .error e ↔ ∃ e', x = .error e' ∧ f e' = e := by
  cases x with
  | error e' => simp [Except.mapError]
  | ok a => simp [Except.mapError]

namespace Rule

section

variable {place : Json.Location} {fields : List (String × Json)} {e : Fault}

namespace Filter

theorem flaw_of_textField {name : String} (hkey : Json.lookup? fields "key" = some (.str "if"))
    (hname : name ∈ ["left", "operator", "right"]) (h : textField place fields name = .error e) :
    e.place = place ∧ FilterFlaw (.obj fields) e.cause := by
  rw [textField] at h
  split at h
  · simp at h
  · rename_i found hne hfound
    obtain rfl := Except.error.inj h
    exact ⟨rfl, .operandNotString hkey hname hfound fun s hs => hne s hs⟩
  · rename_i hnone
    obtain rfl := Except.error.inj h
    exact ⟨rfl, .operandMissing hkey hname hnone⟩

theorem flaw_of_jointOf (h : jointOf place fields = .error e) :
    e.place = place ∧ FilterFlaw (.obj fields) e.cause := by
  rw [jointOf] at h
  split at h
  · rename_i hnone
    obtain rfl := Except.error.inj h
    exact ⟨rfl, .keyMissing hnone⟩
  · rename_i found hfound
    split at h
    · simp at h
    · rename_i hjoint
      obtain rfl := Except.error.inj h
      refine ⟨rfl, .unknownKey hfound ?_⟩
      intro key hkey hstr
      subst hstr
      simp only [List.mem_cons, List.not_mem_nil, or_false] at hkey
      rcases hkey with rfl | rfl | rfl <;> simp [Json.string?, Joint.ofKey?] at hjoint

theorem flaw_of_make? {left right symbol : String} {comparison : Comparison} {negate : Bool}
    (hkey : Json.lookup? fields "key" = some (.str "if"))
    (hsymbol : Json.lookup? fields "operator" = some (.str symbol))
    (hcomparison : Comparison.ofSymbol? symbol = some comparison)
    (hright : Json.lookup? fields "right" = some (.str right))
    (h : Condition.make? (.ofText left) comparison (.ofText right) negate = none) :
    FilterFlaw (.obj fields) (.invalidPattern right) := by
  have hnot : ¬ (comparison = .regex → ¬ "event.".toList <+: right.toList →
      (Pattern.ofText? right).isSome = true) := by
    intro hpattern
    obtain ⟨c, hc⟩ : ∃ c, Condition.make? (.ofText left) comparison (.ofText right) negate =
        some c := Condition.exists_make?_iff.mpr hpattern
    rw [h] at hc
    cases hc
  obtain ⟨hregex, hnot⟩ := Classical.not_imp.mp hnot
  obtain ⟨hliteral, hsource⟩ := Classical.not_imp.mp hnot
  have hsource := Option.not_isSome_iff_eq_none.mp hsource
  have hsame := Comparison.ofSymbol?_eq_some_iff.mp hcomparison
  rw [hregex] at hsame
  exact .invalidPattern hkey hsymbol hsame hright hliteral hsource

theorem of_made_eq_error {made : Option Condition} {cause : Cause}
    (h : (match made with
      | some c => pure c
      | none => Except.error (Fault.mk place cause)) = Except.error e) :
    made = none ∧ e = ⟨place, cause⟩ := by
  cases made with
  | none => exact ⟨rfl, (Except.error.inj h).symm⟩
  | some c => cases h

theorem flaw_of_conditionOf (hkey : Json.lookup? fields "key" = some (.str "if"))
    (h : conditionOf place fields = .error e) :
    e.place = place ∧ FilterFlaw (.obj fields) e.cause := by
  rcases bind_eq_error_iff.mp h with hleft | ⟨left, hleft, h⟩
  · exact flaw_of_textField hkey (by simp) hleft
  rcases bind_eq_error_iff.mp h with hsymbol | ⟨symbol, hsymbol, h⟩
  · exact flaw_of_textField hkey (by simp) hsymbol
  rcases bind_eq_error_iff.mp h with hright | ⟨right, hright, h⟩
  · exact flaw_of_textField hkey (by simp) hright
  have hsymbol := textField_eq_ok_iff.mp hsymbol
  have hright := textField_eq_ok_iff.mp hright
  split at h
  · rename_i comparison hcomparison
    -- the read of `negate` is passed on to what makes the condition
    split at h
    · obtain ⟨hmake, rfl⟩ := of_made_eq_error h
      exact ⟨rfl, flaw_of_make? hkey hsymbol hcomparison hright hmake⟩
    · obtain ⟨hmake, rfl⟩ := of_made_eq_error h
      exact ⟨rfl, flaw_of_make? hkey hsymbol hcomparison hright hmake⟩
    · rename_i found hne hfound
      obtain rfl := Except.error.inj h
      exact ⟨rfl, .negateNotBool hkey hfound fun b hb => hne b hb⟩
  · rename_i hnone
    obtain rfl := Except.error.inj h
    refine ⟨rfl, .unknownOperator hkey hsymbol ?_⟩
    intro c
    have hnot : ¬ Text.sameName symbol c.symbol = true := fun hsame =>
      hnone c (Comparison.ofSymbol?_eq_some_iff.mpr hsame)
    exact Bool.eq_false_iff.mpr hnot

theorem key_of_jointOf {joint : Joint} (hne : joint = .test → False)
    (h : jointOf place fields = .ok joint) :
    Json.lookup? fields "key" = some (.str joint.key) ∧ (joint.key = "and" ∨ joint.key = "or") := by
  refine ⟨jointOf_eq_ok_iff.mp h, ?_⟩
  cases joint with
  | and => exact .inl rfl
  | or => exact .inr rfl
  | test => exact (hne rfl).elim

/-- A filter that cannot be read has a node that is wrong by itself, and the fault is of this node.
Whatever the way to the node passes on its left can be read. -/
theorem exists_flaw_of_ofJson {j : Json} (h : ofJson place j = .error e) :
    ∃ turns node, LeadsTo j turns node ∧ FilterFlaw node e.cause ∧
      e.place = place ++ turns.map fun side => .key side.key := by
  fun_induction ofJson place j with
  | case1 place fields e' hjoint =>
    -- the joint is wrong
    obtain rfl := Except.error.inj h
    obtain ⟨hplace, hflaw⟩ := flaw_of_jointOf hjoint
    exact ⟨[], _, .here _, hflaw, by simpa using hplace⟩
  | case2 place fields hjoint =>
    -- the condition is wrong
    have hkey : Json.lookup? fields "key" = some (.str "if") := jointOf_eq_ok_iff.mp hjoint
    obtain ⟨hplace, hflaw⟩ := flaw_of_conditionOf hkey (map_eq_error_iff.mp h)
    exact ⟨[], _, .here _, hflaw, by simpa using hplace⟩
  | case3 place fields joint hne hjoint hleft =>
    -- the left branch is missing
    obtain rfl := Except.error.inj h
    obtain ⟨hkey, hname⟩ := key_of_jointOf hne hjoint
    exact ⟨[], _, .here _, .branchMissing .left hkey hname hleft, by simp⟩
  | case4 place fields joint hne hjoint left hleft hright =>
    -- the right branch is missing
    obtain rfl := Except.error.inj h
    obtain ⟨hkey, hname⟩ := key_of_jointOf hne hjoint
    exact ⟨[], _, .here _, .branchMissing .right hkey hname hright, by simp⟩
  | case5 place fields joint hne hjoint left hleft right hright _ _ e' hl ih =>
    -- the node is in the left branch
    obtain rfl := Except.error.inj h
    obtain ⟨turns, node, hleads, hflaw, hplace⟩ := ih hl
    obtain ⟨hkey, hname⟩ := key_of_jointOf hne hjoint
    refine ⟨.left :: turns, node, .left (joint_key hkey hname) hleft hright hleads, hflaw, ?_⟩
    rw [hplace, List.append_assoc]
    rfl
  | case6 place fields joint hne hjoint left hleft right hright _ _ l hl ihl ihr =>
    -- the left branch can be read and the node is in the right one
    obtain ⟨turns, node, hleads, hflaw, hplace⟩ := ihr (map_eq_error_iff.mp h)
    obtain ⟨hkey, hname⟩ := key_of_jointOf hne hjoint
    have hfilter : IsFilter left := (exists_ofJson_iff _).mp ⟨l, hl⟩
    refine ⟨.right :: turns, node, .right (joint_key hkey hname) hleft hfilter hright hleads, hflaw,
      ?_⟩
    rw [hplace, List.append_assoc]
    rfl
  | case7 place j hne =>
    obtain rfl := Except.error.inj h
    exact ⟨[], _, .here _, .notObject hne, by simp⟩

end Filter

namespace Operation

theorem flaw_of_arguments {items : List Json} (h : arguments place items = .error e) :
    e.place = place ∧ ∃ found ∈ items, (∀ s, found ≠ .str s) ∧
      e.cause = .argumentNotString found := by
  fun_induction arguments place items with
  | case1 => cases h
  | case2 s rest ih =>
    obtain ⟨hplace, found, hmem, hfound, hcause⟩ := ih (map_eq_error_iff.mp h)
    exact ⟨hplace, found, List.mem_cons_of_mem _ hmem, hfound, hcause⟩
  | case3 found rest hne =>
    obtain rfl := Except.error.inj h
    exact ⟨rfl, found, List.mem_cons_self, fun s hs => hne s hs, rfl⟩

/-- Of as many texts as are due an operation is made unless its pattern cannot be read. -/
theorem flaw_of_ofArguments {j : Json} {kind : OperationKind} {args : List String}
    (hj : j = .arr (.str kind.name :: args.map Json.str)) (hlength : args.length + 1 = kind.arity)
    (h : ofArguments place j kind args = .error e) :
    e.place = place ∧ OperationFlaw j e.cause := by
  subst hj
  unfold ofArguments at h
  split at h
  · cases h
  · cases h
  · split at h
    · cases h
    · rename_i hsource
      obtain rfl := Except.error.inj h
      exact ⟨rfl, .invalidPattern hsource⟩
  · rename_i hremove hedit hregex
    -- no other number of texts is due
    cases kind with
    | remove =>
      have hargs := List.length_eq_zero_iff.mp (Nat.succ.inj hlength)
      exact (hremove rfl hargs).elim
    | edit =>
      obtain ⟨key, value, hargs⟩ := List.length_eq_two.mp (Nat.succ.inj hlength)
      exact (hedit key value rfl hargs).elim
    | editRegex =>
      obtain ⟨key, source, template, hargs⟩ := List.length_eq_three.mp (Nat.succ.inj hlength)
      exact (hregex key source template rfl hargs).elim

/-- A fault of an operation is of the operation itself. -/
theorem flaw_of_ofJson {j : Json} (h : ofJson place j = .error e) :
    e.place = place ∧ OperationFlaw j e.cause := by
  cases j with
  | arr items =>
    simp only [ofJson, Json.items?] at h
    split at h
    · rename_i kind hkind
      obtain ⟨rest, rfl⟩ := kindOf?_eq_some_iff.mp hkind
      split at h
      · rename_i hlength
        obtain rfl := Except.error.inj h
        exact ⟨rfl, .wrongLength rfl hlength⟩
      · rename_i hlength
        rcases bind_eq_error_iff.mp h with hargs | ⟨args, hargs, h⟩
        · obtain ⟨hplace, found, hmem, hfound, hcause⟩ := flaw_of_arguments hargs
          refine ⟨hplace, ?_⟩
          rw [hcause]
          exact .argumentNotString hmem hfound
        · obtain rfl : rest = args.map Json.str := arguments_eq_ok_iff.mp hargs
          exact flaw_of_ofArguments rfl (by simpa using hlength) h
    · rename_i hnone
      obtain rfl := Except.error.inj h
      refine ⟨rfl, .unknown ?_⟩
      intro kind rest hitems
      exact hnone kind (kindOf?_eq_some_iff.mpr ⟨rest, hitems⟩)
  | _ =>
    obtain rfl := Except.error.inj h
    exact ⟨rfl, .notArray (by simp)⟩

/-- A fault of a list of operations is of the list, or of the first operation that is wrong. -/
theorem flaw_of_listOfJson {j : Json} (h : listOfJson place j = .error e) :
    (e.place = place ∧ OperationListFlaw j e.cause) ∨
      ∃ items index node, j = .arr items ∧ items[index]? = some node ∧
        (∀ item ∈ items.take index, IsOperation item) ∧ e.place = place ++ [.index index] ∧
        OperationFlaw node e.cause := by
  cases j with
  | arr items =>
    obtain ⟨index, node, hnode, hread, hearlier⟩ :=
      exists_first_of_items (fun i => ofJson (place ++ [.index i])) (ofItems place) (fun _ => rfl)
        (fun _ _ _ => rfl) (fun _ _ => exists_ofJson_iff) h
    obtain ⟨hplace, hflaw⟩ := flaw_of_ofJson hread
    rw [Nat.zero_add] at hplace
    exact .inr ⟨items, index, node, rfl, hnode, hearlier, hplace, hflaw⟩
  | _ =>
    obtain rfl := Except.error.inj h
    exact .inl ⟨rfl, .notArray (by simp)⟩

end Operation

end

end Rule

namespace Definition

section

variable {place : Json.Location} {fields : List (String × Json)} {e : Rule.Fault}

theorem field_eq_error_iff {name : String} : field place fields name = .error e ↔
    Json.lookup? fields name = none ∧ e = ⟨place, .missing name⟩ := by
  rw [field]
  split
  · rename_i found hfound
    simp [hfound]
  · rename_i hnone
    simp [hnone, eq_comm]

/-- A fault of a rule is of its first node that is wrong by itself. -/
theorem exists_firstFlaw_of_ruleOfJson {j : Json} (h : ruleOfJson place j = .error e) :
    ∃ spot node, FirstFlaw j spot node e.cause ∧ e.place = place ++ spot.location := by
  cases j with
  | obj fields =>
    rcases bind_eq_error_iff.mp h with hfield | ⟨filter, hfield, h⟩
    · obtain ⟨hnone, rfl⟩ := field_eq_error_iff.mp hfield
      refine ⟨.rule, _, .rule (.fieldMissing (by simp) hnone) ?_, by simp [Spot.location]⟩
      intro filter hfilter
      rw [Json.get?, hnone] at hfilter
      cases hfilter
    have hfilter := field_eq_ok_iff.mp hfield
    rcases bind_eq_error_iff.mp h with hread | ⟨f, hread, h⟩
    · obtain ⟨turns, node, hleads, hflaw, hplace⟩ := Filter.exists_flaw_of_ofJson hread
      refine ⟨.filter turns, node, .filter hfilter hleads hflaw, ?_⟩
      rw [hplace, List.append_assoc]
      rfl
    have hisFilter : IsFilter filter := (Filter.exists_ofJson_iff _).mp ⟨f, hread⟩
    rcases bind_eq_error_iff.mp h with hfield | ⟨operations, hfield, h⟩
    · obtain ⟨hnone, rfl⟩ := field_eq_error_iff.mp hfield
      refine ⟨.rule, _, .rule (.fieldMissing (by simp) hnone) ?_, by simp [Spot.location]⟩
      intro filter' hfilter'
      obtain rfl := Option.some.inj (hfilter.symm.trans hfilter')
      exact hisFilter
    have hoperations := field_eq_ok_iff.mp hfield
    rcases bind_eq_error_iff.mp h with hread | ⟨ops, -, h⟩
    · rcases Operation.flaw_of_listOfJson hread with ⟨hplace, hflaw⟩ |
        ⟨items, index, node, rfl, hnode, hearlier, hplace, hflaw⟩
      · exact ⟨.operations, _, .operations hfilter hisFilter hoperations hflaw, hplace⟩
      · refine ⟨.operation index, node,
          .operation hfilter hisFilter hoperations hnode hearlier hflaw, ?_⟩
        rw [hplace, List.append_assoc]
        rfl
    · cases h
  | _ =>
    obtain rfl := Except.error.inj h
    refine ⟨.rule, _, .rule (.notObject (by simp)) (by simp [Json.get?]), by simp [Spot.location]⟩

/-- A rule is wrong exactly when one of its nodes is wrong by itself. -/
theorem exists_firstFlaw_iff {j : Json} :
    (∃ spot node cause, FirstFlaw j spot node cause) ↔ ¬ IsRule j := by
  constructor
  · intro ⟨spot, node, cause, hflaw⟩
    exact hflaw.not_isRule
  · intro hrule
    cases hread : ruleOfJson [] j with
    | ok rule => exact absurd (exists_ruleOfJson_iff.mp ⟨rule, hread⟩) hrule
    | error e =>
      obtain ⟨spot, node, hflaw, -⟩ := exists_firstFlaw_of_ruleOfJson hread
      exact ⟨spot, node, e.cause, hflaw⟩

end

/-- A fault of the rules of a calendar is of the first rule that is wrong. -/
theorem exists_firstFlaw_of_rulesOfItems {items : List Json} {e : Rule.Fault}
    (h : rulesOfItems 0 items = .error e) :
    ∃ i rule spot node, items[i]? = some rule ∧ (∀ earlier ∈ items.take i, IsRule earlier) ∧
      FirstFlaw rule spot node e.cause ∧
      e.place = [.key "rules", .index i] ++ spot.location := by
  obtain ⟨i, rule, hrule, hread, hearlier⟩ :=
    exists_first_of_items (fun i => ruleOfJson [.key "rules", .index i]) rulesOfItems
      (fun _ => rfl) (fun _ _ _ => rfl) (fun _ _ => exists_ruleOfJson_iff) h
  obtain ⟨spot, node, hflaw, hplace⟩ := exists_firstFlaw_of_ruleOfJson hread
  rw [Nat.zero_add] at hplace
  exact ⟨i, rule, spot, node, hrule, hearlier, hflaw, hplace⟩

/-- Of a filtered calendar with a proper address and a list of rules only the rules can be wrong. -/
theorem bodyOfJson_eq_of_rules {name url : String} {fields : List (String × Json)}
    {items : List Json} (htype : Json.lookup? fields "type" = some (.str "filtered"))
    (hurl : Json.lookup? fields "url" = some (.str url)) (haddress : Address.IsFeedAddress url)
    (hrules : Json.lookup? fields "rules" = some (.arr items)) :
    bodyOfJson name (.obj fields) =
      rulesOfItems 0 items >>= fun rules => pure (.filtered name url rules) := by
  have hurl' : (Json.str url).string?.filter Address.isFeedUrl = some url :=
    filter_string?_eq_some_iff.mpr ⟨rfl, haddress⟩
  have hbody : bodyOfJson name (.obj fields) = filteredOfFields name fields := by
    rw [bodyOfJson, Json.fields?]
    simp only [field_eq_ok_iff.mpr htype]
    rfl
  rw [hbody, filteredOfFields, field_eq_ok_iff.mpr hurl]
  simp only [bind, Except.bind, hurl', hrules]

theorem message_badCalendar (name : String) (f : Rule.Fault) :
    Fault.message (.badCalendar name f) = "日历配置无效: " ++ name ++ " (" ++ f.message ++ ")" := rfl

/-- A message about the rules of a calendar begins with the way to the node that it is about. -/
theorem message_of_place {f : Rule.Fault} {i : Nat} {spot : Spot}
    (h : f.place = [.key "rules", .index i] ++ spot.location) :
    f.message = "rules[" ++ toString i ++ "]" ++ spot.text ++ ": " ++ f.cause.message := by
  have hplace : f.place ≠ [] := by
    rw [h]
    exact List.cons_ne_nil _ _
  rw [Rule.Fault.message, if_neg hplace, h, Spot.locationText_eq]

/-- The fault of a filtered calendar with a proper name, a proper address and a list of rules names
the calendar and the way to a node of a rule, which can be followed to its end. This node is the
first one that is wrong by itself, and no rule before its own is wrong. -/
theorem fault_at_firstFlaw {name url : String} {j : Json} {items : List Json} {e : Fault}
    (hname : Address.IsName name) (htype : j.get? "type" = some (.str "filtered"))
    (hurl : j.get? "url" = some (.str url)) (haddress : Address.IsFeedAddress url)
    (hrules : j.get? "rules" = some (.arr items)) (h : Definition.ofJson name j = .error e) :
    ∃ i rule spot node cause,
      e = .badCalendar name ⟨[.key "rules", .index i] ++ spot.location, cause⟩ ∧
      e.calendar? = some name ∧
      e.message = "日历配置无效: " ++ name ++ " (" ++
        ("rules[" ++ toString i ++ "]" ++ spot.text ++ ": " ++ cause.message) ++ ")" ∧
      j.at? ([.key "rules", .index i] ++ spot.location) = some node ∧
      items[i]? = some rule ∧ (∀ earlier ∈ items.take i, IsRule earlier) ∧
      FirstFlaw rule spot node cause := by
  obtain ⟨fields, rfl⟩ := Json.exists_fields_of_get? htype
  rw [Definition.ofJson, if_pos (Address.isCalendarName_iff.mpr hname)] at h
  obtain ⟨fault, hbody, rfl⟩ := mapError_eq_error_iff.mp h
  rw [bodyOfJson_eq_of_rules htype hurl haddress hrules] at hbody
  have hitems : rulesOfItems 0 items = .error fault := by
    rcases bind_eq_error_iff.mp hbody with hitems | ⟨rules, -, hpure⟩
    · exact hitems
    · cases hpure
  obtain ⟨i, rule, spot, node, hrule, hearlier, hflaw, hplace⟩ :=
    exists_firstFlaw_of_rulesOfItems hitems
  have hnode : (Json.obj fields).at? ([.key "rules", .index i] ++ spot.location) = some node := by
    have hstart : (Json.obj fields).at? [.key "rules", .index i] = some rule := by
      simp only [Json.at?, Json.step?, hrules, Json.items?, hrule, Option.bind_some]
    rw [Json.at?_append, hstart, Option.bind_some, hflaw.at?]
  refine ⟨i, rule, spot, node, fault.cause, ?_, rfl, ?_, hnode, hrule, hearlier, hflaw⟩
  · rw [← hplace]
  · rw [message_badCalendar, message_of_place hplace]

/-- The filter of the events of a club. -/
def clubFilter : Json := .obj [("key", .str "if"), ("left", .str "event.SUMMARY"),
  ("operator", .str "contains"), ("right", .str "club")]

/-- Two rules. In the filter of the second one a condition lacks its operator, and its operations
are wrong, too. -/
def clubRules : List Json := [
  .obj [("filter", clubFilter), ("operations", .arr [.arr [.str "remove"]])],
  .obj [
    ("filter", .obj [("key", .str "and"), ("left", clubFilter),
      ("right", .obj [("key", .str "or"),
        ("left", .obj [("key", .str "if"), ("left", .str "event.STATUS"),
          ("right", .str "CANCELLED")]),
        ("right", clubFilter)])]),
    ("operations", .null)]]

def clubCalendar : Json := .obj [("rules", .arr clubRules), ("type", .str "filtered"),
  ("url", .str "https://example.com/a.ics")]

theorem fault_at_firstFlaw_clubCalendar :
    Address.IsName "club" ∧ Address.IsFeedAddress "https://example.com/a.ics" ∧
    ∃ e, Definition.ofJson "club" clubCalendar = .error e ∧
      e.message = "日历配置无效: club (rules[1].filter.right.left: if 节点缺少 operator)" ∧
      ∃ i rule spot node cause,
        e = .badCalendar "club" ⟨[.key "rules", .index i] ++ spot.location, cause⟩ ∧
        clubRules[i]? = some rule ∧ FirstFlaw rule spot node cause := by
  have hname : Address.isCalendarName "club" = true := by decide +kernel
  have haddress : Address.IsFeedAddress "https://example.com/a.ics" :=
    Address.isFeedUrl_iff.mp (by decide +kernel)
  have hrules : rulesOfItems 0 clubRules = .error
      ⟨[.key "rules", .index 1] ++ Spot.location (.filter [.right, .left]),
        .operandMissing "operator"⟩ := by cbv
  have hread : Definition.ofJson "club" clubCalendar = .error (.badCalendar "club"
      ⟨[.key "rules", .index 1] ++ Spot.location (.filter [.right, .left]),
        .operandMissing "operator"⟩) := by
    rw [Definition.ofJson, if_pos hname, clubCalendar, bodyOfJson_eq_of_rules rfl rfl haddress rfl,
      hrules]
    rfl
  have hname := Address.isCalendarName_iff.mp hname
  obtain ⟨i, rule, spot, node, cause, he, -, -, -, hrule, -, hflaw⟩ :=
    fault_at_firstFlaw hname rfl rfl haddress rfl hread
  refine ⟨hname, haddress, _, hread, ?_, i, rule, spot, node, cause, he, hrule, hflaw⟩
  rw [message_badCalendar, message_of_place rfl]
  decide +kernel

end Definition

end CalendarRelay
