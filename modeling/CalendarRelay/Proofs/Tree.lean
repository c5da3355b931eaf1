import Mathlib
import CalendarRelay.Calendar.Component

namespace CalendarRelay.Component

/-- Induction over a component and those within it. -/
@[elab_as_elim]
theorem tree_induction {motive : Component → Prop}
    (step : ∀ name properties components, (∀ d ∈ components, motive d) →
      motive ⟨name, properties, components⟩) (c : Component) : motive c := by
  obtain ⟨name, properties, components⟩ := c
  exact step name properties components fun d hd => tree_induction step d
termination_by sizeOf c
decreasing_by
  have := List.sizeOf_lt_of_mem hd
  simp only [Component.mk.sizeOf_spec]
  omega

/-- What holds of a component and of every component within it, at any depth. -/
inductive Throughout (P : Component → Prop) : Component → Prop
  | intro {c : Component} (here : P c) (within : ∀ d ∈ c.components, Throughout P d) :
    Throughout P c

namespace Throughout

variable {P Q : Component → Prop} {c : Component}

theorem here (h : Throughout P c) : P c := by
  cases h with
  | intro here _ => exact here

theorem within (h : Throughout P c) : ∀ d ∈ c.components, Throughout P d := by
  cases h with
  | intro _ within => exact within

theorem imp (hPQ : ∀ c, P c → Q c) (h : Throughout P c) : Throughout Q c := by
  induction h with
  | intro here _ ih => exact .intro (hPQ _ here) ih

theorem and (hP : Throughout P c) (hQ : Throughout Q c) : Throughout (fun d => P d ∧ Q d) c := by
  induction hP with
  | intro here _ ih => exact .intro ⟨here, hQ.here⟩ fun d hd => ih d hd (hQ.within d hd)

theorem congr (hPQ : Throughout (fun c => P c ↔ Q c) c) : Throughout P c ↔ Throughout Q c := by
  induction hPQ with
  | intro here _ ih =>
    constructor
    · exact fun h => .intro (here.mp h.here) fun d hd => (ih d hd).mp (h.within d hd)
    · exact fun h => .intro (here.mpr h.here) fun d hd => (ih d hd).mpr (h.within d hd)

end Throughout

mutual

/-- The component with every property within it changed by `f`. -/
def mapProperties (f : Property → Property) : Component → Component
  | ⟨name, properties, components⟩ => ⟨name, properties.map f, mapPropertiesAll f components⟩

def mapPropertiesAll (f : Property → Property) : List Component → List Component
  | [] => []
  | c :: rest => mapProperties f c :: mapPropertiesAll f rest

end

theorem mapPropertiesAll_eq_map (f : Property → Property) (cs : List Component) :
    mapPropertiesAll f cs = cs.map (mapProperties f) := by
  induction cs with
  | nil => rfl
  | cons c cs ih => rw [mapPropertiesAll, List.map_cons, ih]

theorem mapProperties_congr {f g : Property → Property} {c : Component}
    (h : Throughout (fun d => ∀ p ∈ d.properties, f p = g p) c) :
    c.mapProperties f = c.mapProperties g := by
  induction c using tree_induction with
  | step name properties components ih =>
    have hp := List.map_congr_left h.here
    have hc := List.map_congr_left fun d hd => ih d hd (h.within d hd)
    rw [mapProperties, mapProperties, mapPropertiesAll_eq_map, mapPropertiesAll_eq_map, hp, hc]

/-- A component stays the same when every property within it does, and only then. -/
theorem mapProperties_eq_self_iff {f : Property → Property} {c : Component} :
    c.mapProperties f = c ↔ Throughout (fun d => ∀ p ∈ d.properties, f p = p) c := by
  induction c using tree_induction with
  | step name properties components ih =>
    rw [mapProperties, mapPropertiesAll_eq_map, Component.mk.injEq]
    constructor
    · rintro ⟨-, hp, hc⟩
      have hp := List.map_eq_map_iff.mp (hp.trans (List.map_id properties).symm)
      have hc := List.map_eq_map_iff.mp (hc.trans (List.map_id components).symm)
      exact .intro hp fun d hd => (ih d hd).mp (hc d hd)
    · intro h
      have hp := List.map_congr_left (g := id) h.here
      have hc := List.map_congr_left (g := id) fun d hd => (ih d hd).mpr (h.within d hd)
      exact ⟨rfl, hp.trans (List.map_id properties), hc.trans (List.map_id components)⟩

end CalendarRelay.Component
