import Mathlib
import CalendarRelay.Rule.Pipeline

namespace CalendarRelay

open Text

theorem Text.sameName_congr {a b : String} (h : sameName a b = true) (c : String) :
    sameName a c = sameName b c := by
  rw [sameName, sameName, (sameName_iff a b).mp h]

theorem Property.isNamed_eq_false {k l : String} (h : sameName k l = false) {p : Property}
    (hp : p.isNamed k = true) : p.isNamed l = false := by
  by_contra hl
  have hkl : sameName k l = true :=
    sameName_trans (sameName_comm p.name k ▸ hp) (Bool.not_eq_false _ ▸ hl)
  simp [h] at hkl

namespace Record

variable {f g : Property → Property} {k l : String}

/-- The first property of a name is changed in its place. -/
theorem modifyNamed_append {before : Record} (hbefore : ∀ q ∈ before, q.isNamed k = false)
    {p : Property} (hp : p.isNamed k = true) (after : Record) :
    (before ++ p :: after).modifyNamed k f = before ++ f p :: after := by
  induction before with
  | nil => simp [modifyNamed, hp]
  | cons q before ih =>
    have hq := hbefore q (by simp)
    have hrest := ih fun q' hq' => hbefore q' (by simp [hq'])
    simp [modifyNamed, hq, hrest]

/-- Changing a property of one name leaves the line of another name as it was. -/
theorem lineOf?_modifyNamed (h : sameName k l = false) (hf : ∀ p, (f p).name = p.name)
    (r : Record) : (r.modifyNamed k f).lineOf? l = r.lineOf? l := by
  induction r with
  | nil => rfl
  | cons p r ih =>
    rw [modifyNamed]
    split
    · rename_i hp
      have hl : p.isNamed l = false := Property.isNamed_eq_false h hp
      have hfl : (f p).isNamed l = false := by rw [Property.isNamed, hf, ← Property.isNamed, hl]
      simp [lineOf?, hl, hfl]
    · rw [lineOf?, lineOf?, List.find?_cons, List.find?_cons]
      rw [lineOf?, lineOf?] at ih
      rw [ih]

/-- Changes of properties of different names can change places. -/
theorem modifyNamed_comm (h : sameName k l = false) (hf : ∀ p, (f p).name = p.name)
    (hg : ∀ p, (g p).name = p.name) (r : Record) :
    (r.modifyNamed k f).modifyNamed l g = (r.modifyNamed l g).modifyNamed k f := by
  induction r with
  | nil => rfl
  | cons p r ih =>
    have hnamed (name : String) : (f p).isNamed name = p.isNamed name ∧
        (g p).isNamed name = p.isNamed name := by
      simp only [Property.isNamed, hf, hg, and_self]
    by_cases hk : p.isNamed k = true
    · have hl := Property.isNamed_eq_false h hk
      simp [modifyNamed, hk, hl, hnamed]
    · by_cases hl : p.isNamed l = true
      · simp [modifyNamed, hk, hl, hnamed]
      · simp [modifyNamed, hk, hl, ih]

/-- Records that are alike as far as one field can tell: neither has a property of the name with a
value, or the first ones have the same first value and, up to case, the same type. -/
def AgreeOn (name : String) (r s : Record) : Prop :=
  Option.Rel (fun p q => p.value? = q.value? ∧ sameName p.valueType q.valueType = true)
    (r.lineOf? name) (s.lineOf? name)

theorem AgreeOn.of_eq {name : String} {r s : Record} (h : r.lineOf? name = s.lineOf? name) :
    r.AgreeOn name s := by
  rw [AgreeOn, h]
  cases s.lineOf? name with
  | none => exact .none
  | some p => exact .some ⟨rfl, sameName_refl p.valueType⟩

end Record

namespace Rule

namespace Operation

/-- The name of the property that an operation edits. -/
def key? : Operation → Option String
  | remove => none
  | edit key _ => some key
  | editRegex key _ _ => some key

/-- The names of the properties that operations edit. -/
def keys (ops : List Operation) : List String := ops.flatMap fun op => op.key?.toList

@[simp] theorem keys_cons (op : Operation) (ops : List Operation) :
    keys (op :: ops) = op.key?.toList ++ keys ops := List.flatMap_cons

/-- An operation removes the event, or changes the first property of its name into one of the same
name. -/
theorem apply_cases (op : Operation) : (∀ r, op.apply r = none) ∨
    ∃ key f, op.key? = some key ∧ (∀ p : Property, (f p).name = p.name) ∧
      ∀ r, op.apply r = some (r.modifyNamed key f) := by
  cases op with
  | remove => exact .inl fun _ => rfl
  | edit key value =>
    exact .inr ⟨key, _, rfl, fun p => p.name_withValue value, fun _ => rfl⟩
  | editRegex key pattern replacement =>
    exact .inr ⟨key, _, rfl, fun p => p.name_mapValue _, fun _ => rfl⟩

/-- Operations leave the lines of names that they do not edit. -/
theorem lineOf?_applyAll {ops : List Operation} {name : String}
    (h : ∀ key ∈ keys ops, sameName key name = false) {r r' : Record}
    (hr : applyAll ops r = some r') : r'.lineOf? name = r.lineOf? name := by
  induction ops generalizing r with
  | nil => rw [Option.some.inj hr]
  | cons op ops ih =>
    obtain ⟨r₁, hop, hops⟩ := Option.bind_eq_some_iff.mp hr
    have hrest := ih (fun key hkey => h key (by simp [hkey])) hops
    rcases op.apply_cases with hremove | ⟨key, f, hkey, hf, happly⟩
    · simp [hremove] at hop
    · have hr₁ : r.modifyNamed key f = r₁ := Option.some.inj ((happly r).symm.trans hop)
      have hname : sameName key name = false := h key (by simp [hkey])
      rw [hrest, ← hr₁, Record.lineOf?_modifyNamed hname hf]

theorem apply_comm {a b : Operation}
    (h : ∀ k ∈ a.key?, ∀ l ∈ b.key?, sameName k l = false) (r : Record) :
    ((a.apply r).bind fun r => b.apply r) = (b.apply r).bind fun r => a.apply r := by
  rcases a.apply_cases with ha | ⟨k, f, hk, hf, ha⟩
  · simp [ha]
  · rcases b.apply_cases with hb | ⟨l, g, hl, hg, hb⟩
    · simp [hb]
    · simp only [ha, hb, Option.bind_some]
      rw [Record.modifyNamed_comm (h k hk l hl) hf hg]

theorem apply_applyAll_comm {a : Operation} {ops : List Operation}
    (h : ∀ k ∈ a.key?, ∀ l ∈ keys ops, sameName k l = false) (r : Record) :
    (a.apply r).bind (applyAll ops) = (applyAll ops r).bind fun r => a.apply r := by
  induction ops generalizing r with
  | nil => simp [applyAll]
  | cons b ops ih =>
    have hb : ∀ r, ((a.apply r).bind fun r => b.apply r) = (b.apply r).bind fun r => a.apply r :=
      apply_comm fun k hk l hl => h k hk l (by simp [Option.mem_def.mp hl])
    have hops := ih fun k hk l hl => h k hk l (by simp [hl])
    calc (a.apply r).bind (applyAll (b :: ops))
        = ((a.apply r).bind fun r => b.apply r).bind (applyAll ops) := by
          rw [Option.bind_assoc]
          rfl
      _ = (b.apply r).bind fun r => (a.apply r).bind (applyAll ops) := by
          rw [hb, Option.bind_assoc]
      _ = (b.apply r).bind fun r => (applyAll ops r).bind fun r => a.apply r := by
          simp only [hops]
      _ = (applyAll (b :: ops) r).bind fun r => a.apply r := (Option.bind_assoc ..).symm

/-- Lists of operations that edit different properties can change places, removals included. -/
theorem applyAll_comm {as bs : List Operation}
    (h : ∀ k ∈ keys as, ∀ l ∈ keys bs, sameName k l = false) (r : Record) :
    (applyAll as r).bind (applyAll bs) = (applyAll bs r).bind (applyAll as) := by
  induction as generalizing r with
  | nil => simp [applyAll]
  | cons a as ih =>
    have ha : ∀ r, (a.apply r).bind (applyAll bs) = (applyAll bs r).bind fun r => a.apply r :=
      apply_applyAll_comm fun k hk => h k (by simp [Option.mem_def.mp hk])
    have has := ih fun k hk => h k (by simp [hk])
    calc (applyAll (a :: as) r).bind (applyAll bs)
        = (a.apply r).bind fun r => (applyAll as r).bind (applyAll bs) := Option.bind_assoc ..
      _ = ((a.apply r).bind (applyAll bs)).bind (applyAll as) := by
          rw [Option.bind_assoc]
          simp only [has]
      _ = (applyAll bs r).bind fun r => (a.apply r).bind (applyAll as) := by
          rw [ha, Option.bind_assoc]
      _ = (applyAll bs r).bind (applyAll (a :: as)) := rfl

end Operation

/-- The field that an operand reads. -/
def Operand.field? : Operand → Option String
  | .literal _ => none
  | .field name => some name

/-- The case of a type makes no difference to a value. -/
theorem Value.typed_congr {a b : String} (h : sameName a b = true) (source : String) :
    Value.typed source a = Value.typed source b := by
  have hnumeric : Value.isNumericType a = Value.isNumericType b := by
    rw [Value.isNumericType, Value.isNumericType, sameName_congr h, sameName_congr h]
  rw [Value.typed, Value.typed, hnumeric]

theorem Operand.resolve?_congr {o : Operand} {r s : Record}
    (h : ∀ name ∈ o.field?, r.AgreeOn name s) : o.resolve? r = o.resolve? s := by
  cases o with
  | literal source => rfl
  | field name =>
    have hlines := h name rfl
    rw [Record.AgreeOn] at hlines
    rw [resolve?, resolve?]
    generalize r.lineOf? name = p at hlines
    generalize s.lineOf? name = q at hlines
    cases hlines with
    | none => rfl
    | some hsame =>
      rw [Option.bind_some, Option.bind_some, hsame.1]
      congr 1
      funext source
      exact Value.typed_congr hsame.2 source

/-- The fields that a condition reads. -/
def Condition.fields (c : Condition) : List String := c.left.field?.toList ++ c.right.field?.toList

theorem Condition.holds_congr {c : Condition} {r s : Record}
    (h : ∀ name ∈ c.fields, r.AgreeOn name s) : c.holds r = c.holds s := by
  have hleft : c.left.resolve? r = c.left.resolve? s :=
    Operand.resolve?_congr fun name hn => h name (by simp [fields, Option.mem_def.mp hn])
  have hright : c.right.resolve? r = c.right.resolve? s :=
    Operand.resolve?_congr fun name hn => h name (by simp [fields, Option.mem_def.mp hn])
  rw [holds, holds, hleft, hright]

/-- The fields that a filter reads, whether or not the evaluation comes to them. -/
def Filter.fields : Filter → List String
  | .always => []
  | .leaf c => c.fields
  | .and l r => Filter.fields l ++ Filter.fields r
  | .or l r => Filter.fields l ++ Filter.fields r

/-- A filter holds alike of events that agree on its fields. -/
theorem Filter.holds_congr {f : Filter} {r s : Record}
    (h : ∀ name ∈ f.fields, r.AgreeOn name s) : f.holds r = f.holds s := by
  rw [holds, holds]
  induction f with
  | always => rfl
  | leaf c => exact Condition.holds_congr h
  | and l r ihl ihr =>
    have hl := ihl fun name hn => h name (by simp [fields, hn])
    have hr := ihr fun name hn => h name (by simp [fields, hn])
    rw [Predicate.evalM, Predicate.evalM, hl, hr]
  | or l r ihl ihr =>
    have hl := ihl fun name hn => h name (by simp [fields, hn])
    have hr := ihr fun name hn => h name (by simp [fields, hn])
    rw [Predicate.evalM, Predicate.evalM, hl, hr]

end Rule

end CalendarRelay
