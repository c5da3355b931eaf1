import CalendarRelay.Rule.Filter
import CalendarRelay.Rule.Operation
import CalendarRelay.Calendar.Component

namespace CalendarRelay

open Rule

/-- A filter and what is done to the events that it holds of. -/
structure Rule where
  filter : Filter
  operations : List Operation

/-- What a run over a calendar has done. `rulesMatched` counts the pairs of an event and a rule
whose filter held of it. -/
structure Stats where
  events : Nat := 0
  removed : Nat := 0
  rulesMatched : Nat := 0
  deriving DecidableEq

namespace Rule

/-- The event after the rules, or nothing when one has removed it, and the number of rules that
matched; `index` is the number of the first rule. -/
def transform (index : Nat) : List Rule → Record → Journaled (Option Record × Nat)
  | [], r => pure (some r, 0)
  | rule :: rules, r => do
    if ← rule.filter.holds r then
      Journaled.note (.ruleMatched index)
      match Operation.applyAll rule.operations r with
      | none => return (none, 1)
      | some r =>
        let (out, matched) ← transform (index + 1) rules r
        return (out, matched + 1)
    else transform (index + 1) rules r

/-- The component after the rules, and what they have done to it. -/
def process (rules : List Rule) (c : Component) : Journaled (Option Component × Stats) := do
  if c.isEvent then
    match ← transform 0 rules c.properties with
    | (some r, matched) =>
      return (some { c with properties := r }, { events := 1, rulesMatched := matched })
    | (none, matched) => return (none, { events := 1, removed := 1, rulesMatched := matched })
  else return (some c, {})

def addStats (a b : Stats) : Stats :=
  ⟨a.events + b.events, a.removed + b.removed, a.rulesMatched + b.rulesMatched⟩

/-- The components after the rules in their places, and what the rules have done. -/
def run (rules : List Rule) : List Component → Journaled (List Component × Stats)
  | [] => pure ([], {})
  | c :: rest => do
    let (out, stats) ← process rules c
    let (others, more) ← run rules rest
    return (out.toList ++ others, addStats stats more)

end Rule

end CalendarRelay
