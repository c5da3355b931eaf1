import CalendarRelay.Proofs.Effect
import CalendarRelay.Proofs.FilterReading

namespace CalendarRelay.Rule

theorem Operand.eq_of_mem_field?_ofText {source name : String} (h : name ∈ (ofText source).field?) :
    source = "event." ++ name := by
  rw [ofText] at h
  cases hmark : Text.afterMark? fieldMark source.toList with
  | none => simp [hmark, field?] at h
  | some rest =>
    have hname : String.ofList rest = name := by simpa [hmark, field?] using h
    have hsource := Text.afterMark?_eq_some_iff.mp hmark
    rw [← String.toList_inj, hsource, ← hname]
    simp [fieldMark]

theorem Condition.operands_of_make? {left right : Operand} {comparison : Comparison}
    {negate : Bool} {c : Condition} (h : make? left comparison right negate = some c) :
    c.left = left ∧ c.right = right := by
  unfold make? at h
  split at h
  · obtain ⟨p, -, hc⟩ := Option.map_eq_some_iff.mp h
    exact ⟨hc ▸ rfl, hc ▸ rfl⟩
  · have hc := Option.some.inj h
    exact ⟨hc ▸ rfl, hc ▸ rfl⟩

namespace Filter

/-- The fields that a filter tree names: those that stand after `event.` in an operand of a
condition, and those that the branches of a joint name. -/
inductive Names : Json → String → Prop
  | operand {fields : List (String × Json)} {side name : String}
    (hkey : Json.lookup? fields "key" = some (.str "if")) (hside : side = "left" ∨ side = "right")
    (hoperand : Json.lookup? fields side = some (.str ("event." ++ name))) :
    Names (.obj fields) name
  | branch {fields : List (String × Json)} {key side name : String} {branch : Json}
    (hkey : Json.lookup? fields "key" = some (.str key)) (hjoint : key = "and" ∨ key = "or")
    (hside : side = "left" ∨ side = "right") (hbranch : Json.lookup? fields side = some branch)
    (hnames : Names branch name) : Names (.obj fields) name

section

variable {fields : List (String × Json)} {name : String}

theorem Names.of_condition {left right : String} (h : Names (.obj fields) name)
    (hkey : Json.lookup? fields "key" = some (.str "if"))
    (hleft : Json.lookup? fields "left" = some (.str left))
    (hright : Json.lookup? fields "right" = some (.str right)) :
    "event." ++ name = left ∨ "event." ++ name = right := by
  cases h with
  | operand _ hside hoperand =>
    rcases hside with rfl | rfl
    · exact .inl (Json.str.inj (Option.some.inj (hoperand.symm.trans hleft)))
    · exact .inr (Json.str.inj (Option.some.inj (hoperand.symm.trans hright)))
  | branch hkey' hjoint =>
    have hif := Json.str.inj (Option.some.inj (hkey.symm.trans hkey'))
    simp [← hif] at hjoint

theorem Names.of_joint {key : String} {left right : Json} (h : Names (.obj fields) name)
    (hkey : Json.lookup? fields "key" = some (.str key)) (hjoint : key = "and" ∨ key = "or")
    (hleft : Json.lookup? fields "left" = some left)
    (hright : Json.lookup? fields "right" = some right) : Names left name ∨ Names right name := by
  cases h with
  | operand hif =>
    have hkey := Json.str.inj (Option.some.inj (hkey.symm.trans hif))
    simp [hkey] at hjoint
  | branch _ _ hside hbranch hnames =>
    rcases hside with rfl | rfl
    · exact .inl (Option.some.inj (hbranch.symm.trans hleft) ▸ hnames)
    · exact .inr (Option.some.inj (hbranch.symm.trans hright) ▸ hnames)

end

theorem names_of_mem_condition {place : Json.Location} {fields : List (String × Json)}
    {c : Condition} (hkey : Json.lookup? fields "key" = some (.str "if"))
    (h : conditionOf place fields = .ok c) {name : String} (hname : name ∈ c.fields) :
    Names (.obj fields) name := by
  obtain ⟨left, symbol, right, comparison, negate, hleft, -, hright, -, -, hmake⟩ :=
    conditionOf_eq_ok_iff.mp h
  obtain ⟨hl, hr⟩ := Condition.operands_of_make? hmake
  rw [Condition.fields, hl, hr] at hname
  rcases List.mem_append.mp hname with hname | hname
  · have hsource := Operand.eq_of_mem_field?_ofText (Option.mem_toList.mp hname)
    exact .operand hkey (.inl rfl) (hsource ▸ hleft)
  · have hsource := Operand.eq_of_mem_field?_ofText (Option.mem_toList.mp hname)
    exact .operand hkey (.inr rfl) (hsource ▸ hright)

/-- A filter that has been read from a tree reads no fields but those that the tree names. -/
theorem names_of_mem_fields {place : Json.Location} {j : Json} {f : Filter}
    (h : ofJson place j = .ok f) {name : String} (hname : name ∈ f.fields) : Names j name := by
  induction f generalizing place j with
  | always => simp [fields] at hname
  | leaf c =>
    obtain ⟨fields, rfl, hkey, hc⟩ := ofJson_leaf h
    exact names_of_mem_condition hkey hc hname
  | and f g ihf ihg =>
    obtain ⟨fields, left, right, rfl, hkey, hleft, hright, hf, hg⟩ := ofJson_and h
    rcases List.mem_append.mp hname with hname | hname
    · exact .branch hkey (.inl rfl) (.inl rfl) hleft (ihf hf hname)
    · exact .branch hkey (.inl rfl) (.inr rfl) hright (ihg hg hname)
  | or f g ihf ihg =>
    obtain ⟨fields, left, right, rfl, hkey, hleft, hright, hf, hg⟩ := ofJson_or h
    rcases List.mem_append.mp hname with hname | hname
    · exact .branch hkey (.inr rfl) (.inl rfl) hleft (ihf hf hname)
    · exact .branch hkey (.inr rfl) (.inr rfl) hright (ihg hg hname)

/-- A filter holds alike of events that agree on every field that its tree names. -/
theorem holds_eq_of_agreeOn {place : Json.Location} {j : Json} {f : Filter}
    (h : ofJson place j = .ok f) {r s : Record}
    (hagree : ∀ name, Names j name → r.AgreeOn name s) : f.holds r = f.holds s := by
  apply holds_congr
  intro name hname
  exact hagree name (names_of_mem_fields h hname)

/-- The tree of a filter for events whose title matches a pattern that they give themselves, or
that are longer than three hours. -/
def patternTree : Json := .obj [
  ("key", .str "or"),
  ("left", .obj [("key", .str "if"), ("left", .str "event.SUMMARY"), ("operator", .str "regex"),
    ("right", .str "event.X-Pattern")]),
  ("right", .obj [("key", .str "if"), ("left", .str "event.x-hours"), ("operator", .str ">"),
    ("right", .str "3")])]

def workshop : Record := [{ name := "summary" },
  { name := "SUMMARY", values := ["Workshop 7", "Atelier 7"] },
  { name := "X-HOURS", valueType := "float", values := ["2.5"] },
  { name := "LOCATION", values := ["Room 12"] }]

/-- The workshop with other lines, in another order, as far as the filter does not read them. -/
def otherWorkshop : Record := [
  { name := "x-hours", params := [("X-UNIT", "h")], valueType := "FLOAT", values := ["2.5", "9"] },
  { name := "DESCRIPTION", values := ["Nothing of this is read"] },
  { name := "Summary", values := ["Workshop 7"] }, { name := "SUMMARY", values := ["Hidden"] }]

theorem eq_of_names_patternTree {name : String} (h : Names patternTree name) :
    name = "SUMMARY" ∨ name = "X-Pattern" ∨ name = "x-hours" := by
  have hcancel {rest : String} (he : "event." ++ name = "event." ++ rest) : name = rest :=
    (String.append_right_inj "event.").mp he
  rcases h.of_joint rfl (.inr rfl) rfl rfl with hpattern | hhours
  · rcases hpattern.of_condition rfl rfl rfl with he | he
    · exact .inl (hcancel he)
    · exact .inr (.inl (hcancel he))
  · rcases hhours.of_condition rfl rfl rfl with he | he
    · exact .inr (.inr (hcancel he))
    · have hchars := congrArg String.toList he
      simp at hchars

theorem agreeOn_workshop {name : String} (h : Names patternTree name) :
    workshop.AgreeOn name otherWorkshop := by
  rcases eq_of_names_patternTree h with rfl | rfl | rfl
  · exact .some (by decide)
  · exact .none
  · exact .some (by decide)

theorem holds_eq_of_agreeOn_workshop : ∃ f, ofJson [] patternTree = .ok f ∧
    (∀ name, Names patternTree name → workshop.AgreeOn name otherWorkshop) ∧
    f.holds workshop = f.holds otherWorkshop := by
  have hread : (ofJson [] patternTree).toOption.isSome = true := by cbv
  cases h : ofJson [] patternTree with
  | error e => simp [h, Except.toOption] at hread
  | ok f =>
    have hagree : ∀ name, Names patternTree name → workshop.AgreeOn name otherWorkshop :=
      fun name => agreeOn_workshop
    exact ⟨f, rfl, hagree, holds_eq_of_agreeOn h hagree⟩

end Filter

end CalendarRelay.Rule
