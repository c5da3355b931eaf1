import Mathlib
import CalendarRelay.Rule.Filter
import CalendarRelay.Proofs.Except

namespace CalendarRelay

namespace Rule

theorem Joint.ofKey?_eq_some_iff {key : String} {joint : Joint} :
    Joint.ofKey? key = some joint ↔ key = joint.key := by
  constructor
  · intro h
    unfold Joint.ofKey? at h
    split at h
    · cases h; assumption
    · split at h
      · cases h; assumption
      · split at h
        · cases h; assumption
        · simp at h
  · rintro rfl
    cases joint <;> decide

namespace Filter

theorem textField_eq_ok_iff {place : Json.Location} {fields : List (String × Json)}
    {name s : String} :
    textField place fields name = .ok s ↔ Json.lookup? fields name = some (.str s) := by
  rw [textField]
  split
  · rename_i t ht
    simp [ht]
  · rename_i found hne hfound
    constructor
    · intro h
      simp at h
    · intro h
      have := hne s
      simp_all
  · rename_i hnone
    simp [hnone]

theorem jointOf_eq_ok_iff {place : Json.Location} {fields : List (String × Json)} {joint : Joint} :
    jointOf place fields = .ok joint ↔ Json.lookup? fields "key" = some (.str joint.key) := by
  rw [jointOf]
  split
  · rename_i hnone
    simp [hnone]
  · rename_i found hfound
    rw [hfound]
    cases found with
    | str s =>
      simp only [Json.string?, Option.bind_some, Option.some.injEq, Json.str.injEq,
        ← Joint.ofKey?_eq_some_iff]
      split
      · rename_i hjoint
        simp [hjoint]
      · rename_i hnone
        simp [hnone]
    | _ => simp [Json.string?]

theorem made_eq_ok_iff {made : Option Condition} {fault : Fault} {c : Condition} :
    (match made with
      | some d => pure d
      | none => Except.error fault) = .ok c ↔ made = some c := by
  cases made with
  | none => simp
  | some d => simp [pure, Except.pure]

theorem conditionOf_eq_ok_iff {place : Json.Location} {fields : List (String × Json)}
    {c : Condition} : conditionOf place fields = .ok c ↔
      ∃ left symbol right comparison negate,
        Json.lookup? fields "left" = some (.str left) ∧
        Json.lookup? fields "operator" = some (.str symbol) ∧
        Json.lookup? fields "right" = some (.str right) ∧
        Comparison.ofSymbol? symbol = some comparison ∧
        (Json.lookup? fields "negate" = none ∧ negate = false ∨
          Json.lookup? fields "negate" = some (.bool negate)) ∧
        Condition.make? (.ofText left) comparison (.ofText right) negate = some c := by
  simp only [conditionOf, bind_eq_ok_iff, textField_eq_ok_iff]
  constructor
  · rintro ⟨left, hleft, symbol, hsymbol, right, hright, h⟩
    refine ⟨left, symbol, right, ?_⟩
    split at h
    · rename_i comparison hcomparison
      split at h
      · rename_i hnegate
        exact ⟨comparison, false, hleft, hsymbol, hright, hcomparison, .inl ⟨hnegate, rfl⟩,
          made_eq_ok_iff.mp h⟩
      · rename_i negate hnegate
        exact ⟨comparison, negate, hleft, hsymbol, hright, hcomparison, .inr hnegate,
          made_eq_ok_iff.mp h⟩
      · simp [bind, Except.bind] at h
    · simp at h
  · rintro ⟨left, symbol, right, comparison, negate, hleft, hsymbol, hright, hcomparison, hnegate,
      h⟩
    refine ⟨left, hleft, symbol, hsymbol, right, hright, ?_⟩
    rw [hcomparison]
    rcases hnegate with ⟨hnegate, rfl⟩ | hnegate
    · rw [hnegate]
      exact made_eq_ok_iff.mpr h
    · rw [hnegate]
      exact made_eq_ok_iff.mpr h

section

variable {place : Json.Location} {fields : List (String × Json)} {joint : Joint} {f : Filter}

theorem ofJson_test (hjoint : jointOf place fields = .ok .test) :
    ofJson place (.obj fields) = (conditionOf place fields).map .leaf := by
  rw [ofJson]
  simp only [hjoint]

/-- Two filters that are read under a joint are read as what it makes of them. -/
theorem ofJson_of_joint {left right : Json} {l r : Filter}
    (hjoint : jointOf place fields = .ok joint) (hne : joint ≠ .test)
    (hleft : Json.lookup? fields "left" = some left)
    (hright : Json.lookup? fields "right" = some right)
    (hl : ofJson (place ++ [.key "left"]) left = .ok l)
    (hr : ofJson (place ++ [.key "right"]) right = .ok r) :
    ofJson place (.obj fields) = .ok (if joint = .and then .and l r else .or l r) := by
  rw [ofJson, hjoint]
  cases joint with
  | test => exact absurd rfl hne
  | and | or =>
    dsimp only
    split
    · rename_i hnone
      simp [hleft] at hnone
    · rename_i left' hleft'
      obtain rfl := Option.some.inj (hleft.symm.trans hleft')
      split
      · rename_i hnone
        simp [hright] at hnone
      · rename_i right' hright'
        obtain rfl := Option.some.inj (hright.symm.trans hright')
        rw [hl, hr]
        rfl

/-- What is read under a joint has two sides, and both are read. -/
theorem exists_of_ofJson_joint (hjoint : jointOf place fields = .ok joint) (hne : joint ≠ .test)
    (h : ofJson place (.obj fields) = .ok f) :
    ∃ left right l r, Json.lookup? fields "left" = some left ∧
      Json.lookup? fields "right" = some right ∧
      ofJson (place ++ [.key "left"]) left = .ok l ∧
      ofJson (place ++ [.key "right"]) right = .ok r ∧
      f = if joint = .and then .and l r else .or l r := by
  rw [ofJson, hjoint] at h
  cases joint with
  | test => exact absurd rfl hne
  | and | or =>
    dsimp only at h
    split at h
    · simp at h
    · rename_i left hleft
      split at h
      · simp at h
      · rename_i right hright
        split at h
        · simp at h
        · rename_i l hl
          obtain ⟨r, hr, rfl⟩ := map_eq_ok_iff.mp h
          exact ⟨left, right, l, r, hleft, hright, hl, hr, rfl⟩

end

/-- A filter is read from a condition, or from a joint of two filters. -/
theorem ofJson_eq_ok_iff {place : Json.Location} {j : Json} {f : Filter} :
    ofJson place j = .ok f ↔ ∃ fields, j = .obj fields ∧
      ((Json.lookup? fields "key" = some (.str "if") ∧
          ∃ c, conditionOf place fields = .ok c ∧ f = .leaf c) ∨
        ∃ left right l r, Json.lookup? fields "left" = some left ∧
          Json.lookup? fields "right" = some right ∧
          ofJson (place ++ [.key "left"]) left = .ok l ∧
          ofJson (place ++ [.key "right"]) right = .ok r ∧
          (Json.lookup? fields "key" = some (.str "and") ∧ f = .and l r ∨
            Json.lookup? fields "key" = some (.str "or") ∧ f = .or l r)) := by
  cases j with
  | obj fields =>
    simp only [Json.obj.injEq, exists_eq_left']
    constructor
    · intro h
      cases hjoint : jointOf place fields with
      | error e =>
        rw [ofJson, hjoint] at h
        simp at h
      | ok joint =>
        have hkey := jointOf_eq_ok_iff.mp hjoint
        cases joint with
        | test =>
          rw [ofJson_test hjoint] at h
          obtain ⟨c, hc, rfl⟩ := map_eq_ok_iff.mp h
          exact .inl ⟨hkey, c, hc, rfl⟩
        | and =>
          obtain ⟨left, right, l, r, hleft, hright, hl, hr, rfl⟩ :=
            exists_of_ofJson_joint hjoint (by simp) h
          exact .inr ⟨left, right, l, r, hleft, hright, hl, hr, .inl ⟨hkey, rfl⟩⟩
        | or =>
          obtain ⟨left, right, l, r, hleft, hright, hl, hr, rfl⟩ :=
            exists_of_ofJson_joint hjoint (by simp) h
          exact .inr ⟨left, right, l, r, hleft, hright, hl, hr, .inr ⟨hkey, rfl⟩⟩
    · rintro (⟨hkey, c, hc, rfl⟩ |
        ⟨left, right, l, r, hleft, hright, hl, hr, ⟨hkey, rfl⟩ | ⟨hkey, rfl⟩⟩)
      · rw [ofJson_test (jointOf_eq_ok_iff.mpr hkey)]
        exact map_eq_ok_iff.mpr ⟨c, hc, rfl⟩
      · have hjoint : jointOf place fields = .ok .and := jointOf_eq_ok_iff.mpr hkey
        exact ofJson_of_joint hjoint (by simp) hleft hright hl hr
      · have hjoint : jointOf place fields = .ok .or := jointOf_eq_ok_iff.mpr hkey
        exact ofJson_of_joint hjoint (by simp) hleft hright hl hr
  | _ => simp [ofJson]

section

variable {place : Json.Location} {j : Json}

theorem ofJson_ne_always : ofJson place j ≠ .ok .always := by
  intro h
  obtain ⟨fields, -, ⟨-, c, -, hf⟩ | ⟨left, right, l, r, -, -, -, -, ⟨-, hf⟩ | ⟨-, hf⟩⟩⟩ :=
    ofJson_eq_ok_iff.mp h <;> cases hf

theorem ofJson_leaf {c : Condition} (h : ofJson place j = .ok (.leaf c)) :
    ∃ fields, j = .obj fields ∧ Json.lookup? fields "key" = some (.str "if") ∧
      conditionOf place fields = .ok c := by
  obtain ⟨fields, hj, ⟨hkey, d, hd, hf⟩ | ⟨left, right, l, r, -, -, -, -, ⟨-, hf⟩ | ⟨-, hf⟩⟩⟩ :=
    ofJson_eq_ok_iff.mp h <;> cases hf
  exact ⟨fields, hj, hkey, hd⟩

theorem ofJson_and {f g : Filter} (h : ofJson place j = .ok (.and f g)) :
    ∃ fields left right, j = .obj fields ∧ Json.lookup? fields "key" = some (.str "and") ∧
      Json.lookup? fields "left" = some left ∧ Json.lookup? fields "right" = some right ∧
      ofJson (place ++ [.key "left"]) left = .ok f ∧
      ofJson (place ++ [.key "right"]) right = .ok g := by
  obtain ⟨fields, hj, ⟨-, c, -, hf⟩ |
      ⟨left, right, l, r, hleft, hright, hl, hr, ⟨hkey, hf⟩ | ⟨-, hf⟩⟩⟩ :=
    ofJson_eq_ok_iff.mp h <;> cases hf
  exact ⟨fields, left, right, hj, hkey, hleft, hright, hl, hr⟩

theorem ofJson_or {f g : Filter} (h : ofJson place j = .ok (.or f g)) :
    ∃ fields left right, j = .obj fields ∧ Json.lookup? fields "key" = some (.str "or") ∧
      Json.lookup? fields "left" = some left ∧ Json.lookup? fields "right" = some right ∧
      ofJson (place ++ [.key "left"]) left = .ok f ∧
      ofJson (place ++ [.key "right"]) right = .ok g := by
  obtain ⟨fields, hj, ⟨-, c, -, hf⟩ |
      ⟨left, right, l, r, hleft, hright, hl, hr, ⟨-, hf⟩ | ⟨hkey, hf⟩⟩⟩ :=
    ofJson_eq_ok_iff.mp h <;> cases hf
  exact ⟨fields, left, right, hj, hkey, hleft, hright, hl, hr⟩

end

end Filter

end Rule

end CalendarRelay
