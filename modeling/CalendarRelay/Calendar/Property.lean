import CalendarRelay.Text.Ascii

namespace CalendarRelay

@[ext]
structure Property where
  name : String
  params : List (String × String) := []
  valueType : String := "text"
  values : List String := []
  deriving DecidableEq

namespace Property

/-- The first value, which is the one that filters and operations see. -/
def value? (p : Property) : Option String := p.values.head?

/-- The property with its first value replaced, or given one if it has none. -/
def withValue (p : Property) (value : String) : Property :=
  { p with values := value :: p.values.tail }

/-- The property with its first value changed by `f`, if it has one. -/
def mapValue (f : String → String) (p : Property) : Property :=
  match p.values with
  | [] => p
  | v :: rest => { p with values := f v :: rest }

/-- Names of properties are compared without regard to case. -/
def isNamed (p : Property) (name : String) : Bool := Text.sameName p.name name

def param? (p : Property) (key : String) : Option String :=
  (p.params.find? fun q => Text.sameName q.1 key).map Prod.snd

@[simp] theorem value?_withValue (p : Property) (v : String) :
    (p.withValue v).value? = some v := rfl

@[simp] theorem name_withValue (p : Property) (v : String) : (p.withValue v).name = p.name := rfl

@[simp] theorem name_mapValue (f : String → String) (p : Property) :
    (p.mapValue f).name = p.name := by
  unfold mapValue; split <;> rfl

@[simp] theorem value?_mapValue (f : String → String) (p : Property) :
    (p.mapValue f).value? = p.value?.map f := by
  unfold mapValue value?
  split <;> simp_all

end Property

/-- The properties of a component in their order. -/
abbrev Record := List Property

namespace Record

/-- The first property of the name. -/
def named? (r : Record) (name : String) : Option Property := r.find? (·.isNamed name)

/-- The first property of the name that has a value. -/
def lineOf? (r : Record) (name : String) : Option Property :=
  r.find? fun p => p.isNamed name && p.value?.isSome

def valueOf? (r : Record) (name : String) : Option String := (r.lineOf? name).bind (·.value?)

/-- The record with the first property of the name changed by `f`. -/
def modifyNamed (name : String) (f : Property → Property) : Record → Record
  | [] => []
  | p :: rest => if p.isNamed name then f p :: rest else p :: modifyNamed name f rest

theorem modifyNamed_of_named?_eq_none {r : Record} {name : String} {f : Property → Property}
    (h : r.named? name = none) : r.modifyNamed name f = r := by
  induction r with
  | nil => rfl
  | cons p rest ih =>
    cases hp : p.isNamed name with
    | true => simp [named?, hp] at h
    | false =>
      simp only [named?, List.find?_cons, hp] at h
      simp [modifyNamed, hp, ih h]

end Record

end CalendarRelay
