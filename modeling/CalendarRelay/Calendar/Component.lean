import CalendarRelay.Calendar.Property

namespace CalendarRelay

structure Component where
  name : String
  properties : Record := []
  components : List Component := []

namespace Component

/-- An event with the given properties. -/
def event (properties : Record) : Component := { name := "VEVENT", properties }

def isEvent (c : Component) : Bool := Text.sameName c.name "vevent"

mutual

def decEq : (a b : Component) → Decidable (a = b)
  | ⟨n, p, cs⟩, ⟨m, q, ds⟩ =>
    match decEqAll cs ds with
    | isTrue h =>
      if h' : n = m ∧ p = q then isTrue (by simp [h, h'])
      else isFalse fun e => by
        injection e with hn hp _
        exact h' ⟨hn, hp⟩
    | isFalse h => isFalse fun e => by
      injection e with _ _ hc
      exact h hc

def decEqAll : (as bs : List Component) → Decidable (as = bs)
  | [], [] => isTrue rfl
  | a :: as, b :: bs =>
    match decEq a b, decEqAll as bs with
    | isTrue h, isTrue h' => isTrue (by rw [h, h'])
    | isFalse h, _ => isFalse fun e => by
      injection e with ha _
      exact h ha
    | _, isFalse h => isFalse fun e => by
      injection e with _ hs
      exact h hs
  | [], _ :: _ => isFalse nofun
  | _ :: _, [] => isFalse nofun

end

instance : DecidableEq Component := decEq

end Component

end CalendarRelay
