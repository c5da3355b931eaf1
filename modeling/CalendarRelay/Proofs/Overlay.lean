import Mathlib
import CalendarRelay.Settings.Layer

namespace CalendarRelay.Settings

/-- A layer of settings by its keys. -/
abbrev Layer := List (String × Value)

/-- A value that is written at a path. -/
structure Write where
  path : List PathStep
  value : Value

/-- What a write does to a setting. -/
inductive Effect
  | gives
  | takesBack
  | passes
  deriving DecidableEq

namespace Value

def isTable : Value → Bool
  | table _ => true
  | _ => false

/-- Whether other values can be found within a value. -/
def isComposite : Value → Bool
  | table _ => true
  | list _ => true
  | _ => false

/-- What is found within a value under names, each leading into a table. -/
def at? : (names : List String) → Value → Option Value
  | [], v => some v
  | name :: names, v => (lookup? v.entries name).bind (at? names)

@[simp] theorem at?_nil (v : Value) : at? [] v = some v := rfl

theorem at?_cons (name : String) (names : List String) (v : Value) :
    at? (name :: names) v = (lookup? v.entries name).bind (at? names) := rfl

theorem entries_eq_nil {v : Value} (h : v.isTable = false) : v.entries = [] := by
  cases v with
  | table entries => exact absurd h (by simp [isTable])
  | _ => rfl

theorem at?_cons_eq_none {v : Value} (h : v.isTable = false) (name : String)
    (names : List String) : at? (name :: names) v = none := by
  rw [at?_cons, entries_eq_nil h]
  rfl

theorem eq_table {v : Value} (h : v.isTable = true) : v = table v.entries := by
  cases v with
  | table entries => rfl
  | _ => exact absurd h Bool.false_ne_true

theorem isComposite_of_isTable {v : Value} (h : v.isTable = true) : v.isComposite = true := by
  rw [eq_table h, isComposite]

theorem lookup?_put (key name : String) (v : Value) (entries : List (String × Value)) :
    lookup? (put key v entries) name = if key = name then some v else lookup? entries name := by
  induction entries with
  | nil => by_cases h : key = name <;> simp [put, lookup?, h]
  | cons e rest ih =>
    obtain ⟨k, old⟩ := e
    by_cases hk : k = key
    · subst hk
      by_cases h : k = name <;> simp [put, lookup?, h]
    · simp only [lookup?] at ih
      by_cases hname : k = name
      · subst hname
        simp [put, lookup?, hk, Ne.symm hk]
      · simp [put, lookup?, hk, hname, ih]

end Value

namespace Write

open Value

/-- The write at what is within a path. -/
def within (path : List PathStep) (w : Write) : Write := ⟨path ++ w.path, w.value⟩

/-- What writing a value at a path does to the setting that names lead to. The setting is given by
a value in its own place. It is taken back by a value in the place of a section that it is in,
unless that is a table, and by an item of such a section. -/
def effectAt (v : Value) : (names : List String) → (path : List PathStep) → Effect
  | [], [] => if v.isTable then .passes else .gives
  | [], _ :: _ => .passes
  | _ :: _, [] => if v.isTable then .passes else .takesBack
  | _ :: _, .item _ :: _ => .takesBack
  | name :: names, .field key :: path => if key = name then effectAt v names path else .passes

def effect (names : List String) (w : Write) : Effect := effectAt w.value names w.path

/-- What is known of a setting after a write. -/
def apply (names : List String) (known : Option Value) (w : Write) : Option Value :=
  match w.effect names with
  | .gives => some w.value
  | .takesBack => none
  | .passes => known

theorem apply_within_field (key name : String) (names : List String) (path : List PathStep)
    (known : Option Value) (w : Write) :
    apply (name :: names) known (w.within (.field key :: path)) =
      if key = name then apply names known (w.within path) else known := by
  by_cases h : key = name <;> simp [apply, effect, within, effectAt, h]

theorem foldl_apply_within_field (key name : String) (names : List String) (path : List PathStep)
    (known : Option Value) (ws : List Write) :
    (ws.map (within (.field key :: path))).foldl (apply (name :: names)) known =
      if key = name then (ws.map (within path)).foldl (apply names) known else known := by
  induction ws generalizing known with
  | nil => simp
  | cons w ws ih =>
    rw [List.map_cons, List.foldl_cons, ih, apply_within_field, List.map_cons, List.foldl_cons]
    split <;> rfl

/-- What is written within a setting passes it by. -/
theorem foldl_apply_nil_within (step : PathStep) (path : List PathStep) (known : Option Value)
    (ws : List Write) : (ws.map (within (step :: path))).foldl (apply []) known = known := by
  induction ws with
  | nil => rfl
  | cons w ws ih => exact ih

@[simp] theorem map_within_nil (ws : List Write) : ws.map (within []) = ws :=
  List.map_id ws

end Write

namespace Value

open Write

mutual

/-- The writes that a value comes down to: of everything within it that is not a table, and of the
tables without entries. -/
def leaves : Value → List Write
  | table entries => if entries.isEmpty then [⟨[], table []⟩] else entryLeaves entries
  | v => [⟨[], v⟩]

def entryLeaves : List (String × Value) → List Write
  | [] => []
  | (key, v) :: rest => (leaves v).map (within [.field key]) ++ entryLeaves rest

end

/-- The writes that a layer comes down to. -/
def said (layer : Layer) : List Write :=
  layer.flatMap fun e => (leaves e.2).map (within (PathStep.pathOf e.1))

/-- What is found of a setting where so much is known of it. Something else may be found only if it
can have other values in it. -/
def Shows (known found : Option Value) : Prop :=
  found = known ∨ ∃ v, found = some v ∧ v.isComposite = true

theorem leaves_of_not_isTable {v : Value} (h : v.isTable = false) : leaves v = [⟨[], v⟩] := by
  cases v with
  | table entries => exact absurd h (by simp [isTable])
  | _ => simp [leaves]

theorem overlay_of_not_isTable {v : Value} (h : v.isTable = false) (old : Option Value) :
    overlay old v = v := by
  cases v with
  | table entries => exact absurd h (by simp [isTable])
  | _ => simp [overlay]

theorem isTable_overlayEntries {old : Value} (h : old.isTable = true)
    (entries : List (String × Value)) : (overlayEntries old entries).isTable = true := by
  induction entries generalizing old with
  | nil => exact h
  | cons e rest ih =>
    rw [overlayEntries]
    exact ih rfl

theorem foldl_entryLeaves_nil (known : Option Value) (entries : List (String × Value)) :
    (entryLeaves entries).foldl (apply []) known = known := by
  induction entries with
  | nil => rfl
  | cons e rest ih => rw [entryLeaves, List.foldl_append, foldl_apply_nil_within, ih]

theorem foldl_leaves_table (names : List String) (known : Option Value)
    (entries : List (String × Value)) :
    (leaves (table entries)).foldl (apply names) known =
      (entryLeaves entries).foldl (apply names) known := by
  cases entries with
  | nil => cases names <;> rfl
  | cons e rest => rw [leaves, List.isEmpty_cons, if_neg Bool.false_ne_true]

/-- A value that is laid over another is found in its place, and has its own values in it. -/
theorem shows_overlay_nil {old known : Option Value} (v : Value) (h : Shows known old) :
    Shows ((leaves v).foldl (apply []) known) (some (overlay old v)) := by
  cases htable : v.isTable with
  | false =>
    left
    rw [leaves_of_not_isTable htable, overlay_of_not_isTable htable]
    simp [apply, effect, effectAt, htable]
  | true =>
    obtain ⟨entries, rfl⟩ : ∃ entries, v = table entries := ⟨_, eq_table htable⟩
    rw [foldl_leaves_table, foldl_entryLeaves_nil, overlay]
    cases entries with
    | nil =>
      cases old with
      | none => exact .inr ⟨_, rfl, rfl⟩
      | some o => exact h
    | cons e rest =>
      refine .inr ⟨_, rfl, isComposite_of_isTable ?_⟩
      rw [overlayEntries]
      exact isTable_overlayEntries rfl rest

-- The induction is on the value that is laid over the old one, and on the entries of a table at
-- once: an entry under the first name goes on with the names after it, any other leaves what is
-- found as it was.
mutual

theorem shows_overlay (v : Value) (names : List String) (old known : Option Value)
    (h : Shows known (old.bind (at? names))) :
    Shows ((leaves v).foldl (apply names) known) (at? names (overlay old v)) := by
  cases names with
  | nil =>
    refine shows_overlay_nil v ?_
    cases old with
    | none => exact h
    | some o => exact h
  | cons name names =>
    match v with
    | table entries =>
      rw [foldl_leaves_table, overlay]
      refine shows_overlayEntries entries name names _ _ ?_
      cases old with
      | none => exact h
      | some o => exact h
    | nothing | bool _ | int _ | float _ | text _ | list _ =>
      left
      rw [leaves_of_not_isTable rfl, overlay_of_not_isTable rfl, at?_cons_eq_none rfl]
      rfl

theorem shows_overlayEntries (entries : List (String × Value)) (name : String)
    (names : List String) (old : Value) (known : Option Value)
    (h : Shows known (at? (name :: names) old)) :
    Shows ((entryLeaves entries).foldl (apply (name :: names)) known)
      (at? (name :: names) (overlayEntries old entries)) := by
  match entries with
  | [] => exact h
  | (key, v) :: rest =>
    rw [entryLeaves, List.foldl_append, overlayEntries, foldl_apply_within_field, map_within_nil]
    refine shows_overlayEntries rest name names _ _ ?_
    rw [at?_cons, Value.entries, lookup?_put]
    split
    case isTrue hkey =>
      subst hkey
      exact shows_overlay v names _ known h
    case isFalse hkey => exact h

end

end Value

namespace PathStep

end PathStep

namespace Value

open Write

/-- What is known of a setting after all layers. -/
def settled (ls : List Layer) (names : List String) : Option Value :=
  (ls.flatMap said).foldl (apply names) none

end Value

namespace Write

open Value

/-- A write bears on a setting if it gives it or takes it back. -/
def BearsOn (names : List String) (w : Write) : Prop := w.effect names ≠ .passes

/-- A write gives a setting its value. -/
def Sets (names : List String) (w : Write) : Prop :=
  w.path = names.map .field ∧ w.value.isTable = false

theorem effect_eq_gives_iff {names : List String} {w : Write} :
    w.effect names = .gives ↔ w.Sets names := by
  obtain ⟨path, v⟩ := w
  induction names generalizing path with
  | nil =>
    cases path with
    | nil => cases h : v.isTable <;> simp [effect, effectAt, Sets, h]
    | cons step path => simp [effect, effectAt, Sets]
  | cons name names ih =>
    match path with
    | [] => cases h : v.isTable <;> simp [effect, effectAt, Sets, h]
    | .item n :: path => simp [effect, effectAt, Sets]
    | .field key :: path =>
      by_cases h : key = name
      · simpa [effect, effectAt, Sets, h] using ih path
      · simp [effect, effectAt, Sets, h]

end Write

namespace Value

open Write

/-- A write is the last that counts: it is in a layer that says nothing more that counts after it,
and no layer above it does. -/
def LastSaid (ls : List Layer) (Counts : Write → Prop) (w : Write) : Prop :=
  ∃ below layer above before after, ls = below ++ layer :: above ∧
    said layer = before ++ w :: after ∧ (∀ x ∈ after, ¬Counts x) ∧
    ∀ l ∈ above, ∀ x ∈ said l, ¬Counts x

/-- The layers give a setting a value: it is the last that bears on the setting. -/
def GivenBy (ls : List Layer) (names : List String) (v : Value) : Prop :=
  v.isTable = false ∧ LastSaid ls (BearsOn names) ⟨names.map .field, v⟩

theorem LastSaid.congr {ls : List Layer} {Counts Counts' : Write → Prop} {w : Write}
    (hcounts : ∀ l ∈ ls, ∀ x ∈ said l, Counts' x → Counts x) (h : LastSaid ls Counts w) :
    LastSaid ls Counts' w := by
  obtain ⟨below, layer, above, before, after, rfl, hsaid, hafter, habove⟩ := h
  refine ⟨below, layer, above, before, after, rfl, hsaid, ?_, ?_⟩
  · exact fun x hx hcount =>
      hafter x hx (hcounts layer (by simp) x (by simp [hsaid, hx]) hcount)
  · exact fun l hl x hx hcount => habove l hl x hx (hcounts l (by simp [hl]) x hx hcount)

/-- Where nothing is taken back, a setting is given by what sets it last. -/
theorem givenBy_iff_lastSaid_sets {ls : List Layer} {names : List String} {v : Value}
    (h : ∀ l ∈ ls, ∀ w ∈ said l, w.effect names ≠ .takesBack) :
    GivenBy ls names v ↔
      v.isTable = false ∧ LastSaid ls (Sets names) ⟨names.map .field, v⟩ := by
  have hbears : ∀ l ∈ ls, ∀ w ∈ said l, w.BearsOn names ↔ w.Sets names := by
    intro l hl w hw
    rw [← effect_eq_gives_iff, BearsOn]
    have hback := h l hl w hw
    cases heffect : w.effect names <;> simp_all
  refine and_congr_right fun _ => ⟨fun hlast => ?_, fun hlast => ?_⟩
  · exact hlast.congr fun l hl w hw => (hbears l hl w hw).mpr
  · exact hlast.congr fun l hl w hw => (hbears l hl w hw).mp

end Value

end CalendarRelay.Settings
