import CalendarRelay.Decimal.Binary64

namespace CalendarRelay

open Decimal (Binary64)

inductive Json
  | null
  | bool (b : Bool)
  | int (n : Int)
  | float (x : Binary64)
  | str (s : String)
  | arr (items : List Json)
  | obj (fields : List (String × Json))
  deriving Inhabited

namespace Json

/-- The field list with one more field; a field with the same key is replaced. -/
def insertField (key : String) (value : Json) : List (String × Json) → List (String × Json)
  | [] => [(key, value)]
  | (k, v) :: fields =>
    if key = k then (key, value) :: fields
    else if key < k then (key, value) :: (k, v) :: fields
    else (k, v) :: insertField key value fields

/-- The object with the given fields; of several with one key the last counts. -/
def ofFields (fields : List (String × Json)) : Json :=
  .obj (fields.foldl (fun acc (k, v) => insertField k v acc) [])

/-- The value under `key` in a list of fields. -/
def lookup? (fields : List (String × Json)) (key : String) : Option Json :=
  (fields.find? fun f => f.1 == key).map Prod.snd

theorem mem_of_lookup? {fields : List (String × Json)} {key : String} {j : Json}
    (h : lookup? fields key = some j) : (key, j) ∈ fields := by
  simp only [lookup?, Option.map_eq_some_iff] at h
  obtain ⟨f, hf, rfl⟩ := h
  have hk : f.1 = key := by simpa using List.find?_some hf
  exact hk ▸ List.mem_of_find?_eq_some hf

/-- A value in an object is smaller than the object. -/
theorem sizeOf_lt_of_lookup? {fields : List (String × Json)} {key : String} {j : Json}
    (h : lookup? fields key = some j) : sizeOf j < sizeOf (Json.obj fields) := by
  have := List.sizeOf_lt_of_mem (mem_of_lookup? h)
  simp only [Prod.mk.sizeOf_spec, Json.obj.sizeOf_spec] at this ⊢
  omega

/-- The value of an object under `key`. -/
def get? (key : String) : Json → Option Json
  | .obj fields => lookup? fields key
  | _ => none

def fields? : Json → Option (List (String × Json))
  | .obj fields => some fields
  | _ => none

def items? : Json → Option (List Json)
  | .arr items => some items
  | _ => none

def string? : Json → Option String
  | .str s => some s
  | _ => none

def bool? : Json → Option Bool
  | .bool b => some b
  | _ => none

/-- One step into a value: to a field of an object or to an item of an array. -/
inductive Step
  | key (name : String)
  | index (i : Nat)
  deriving DecidableEq

/-- The steps from a value to a place within it. -/
abbrev Location := List Step

/-- The value that one step leads to. -/
def step? (j : Json) : Step → Option Json
  | .key name => j.get? name
  | .index i => j.items?.bind (·[i]?)

/-- The value at a location. -/
def at? (j : Json) : Location → Option Json
  | [] => some j
  | s :: rest => (j.step? s).bind (·.at? rest)

@[simp] theorem at?_nil (j : Json) : j.at? [] = some j := rfl

theorem at?_append (j : Json) (a b : Location) : j.at? (a ++ b) = (j.at? a).bind (·.at? b) := by
  induction a generalizing j with
  | nil => rfl
  | cons s a ih =>
    simp only [List.cons_append, at?]
    cases j.step? s with
    | none => rfl
    | some child => simpa using ih child

/-- A location in words: `rules[0].filter.left`. -/
def locationText : Location → String
  | [] => ""
  | .key name :: rest => name ++ go rest
  | .index i :: rest => "[" ++ toString i ++ "]" ++ go rest
where
  go : Location → String
    | [] => ""
    | .key name :: rest => "." ++ name ++ go rest
    | .index i :: rest => "[" ++ toString i ++ "]" ++ go rest

end Json

end CalendarRelay
