import CalendarRelay.Calendar.Property
import CalendarRelay.Rule.Predicate

namespace CalendarRelay.Rule

/-- A test of events; a test that fails gives no answer. -/
abbrev Test := Record → Option Bool

/-- The way from the root of a predicate to one of its parts. -/
abbrev Place := List Side

/-- A place is left of another where the ways to them part. -/
def LeftOf (a b : Place) : Prop :=
  ∃ above below below', a = above ++ .left :: below ∧ b = above ++ .right :: below'

theorem LeftOf.cons {a b : Place} (h : LeftOf a b) (side : Side) :
    LeftOf (side :: a) (side :: b) := by
  obtain ⟨above, below, below', rfl, rfl⟩ := h
  exact ⟨side :: above, below, below', rfl, rfl⟩

theorem leftOf_sides (a b : Place) : LeftOf (.left :: a) (.right :: b) := ⟨[], a, b, rfl, rfl⟩

theorem not_leftOf_self (a : Place) : ¬LeftOf a a := by
  rintro ⟨above, below, below', hleft, hright⟩
  have hsides := List.append_cancel_left (hleft.symm.trans hright)
  simp at hsides

namespace Predicate

section

variable {α : Type}

/-- The predicate with the places of its leaves, when it stands at the place `above` itself. -/
def located (above : Place) : Predicate α → Predicate (Place × α)
  | always => .always
  | leaf a => .leaf (above, a)
  | and l r => .and (l.located (above ++ [.left])) (r.located (above ++ [.right]))
  | or l r => .or (l.located (above ++ [.left])) (r.located (above ++ [.right]))

/-- The part of a predicate at a place. -/
def part? : Predicate α → Place → Option (Predicate α)
  | p, [] => some p
  | and l _, .left :: place => l.part? place
  | or l _, .left :: place => l.part? place
  | and _ r, .right :: place => r.part? place
  | or _ r, .right :: place => r.part? place
  | _, _ => none

/-- The predicate with another one in place of its part at a place. -/
def replace : Predicate α → Place → Predicate α → Predicate α
  | _, [], q => q
  | and l r, .left :: place, q => .and (l.replace place q) r
  | or l r, .left :: place, q => .or (l.replace place q) r
  | and l r, .right :: place, q => .and l (r.replace place q)
  | or l r, .right :: place, q => .or l (r.replace place q)
  | p, _, _ => p

/-- The Boolean value of a predicate whose leaves have the values that `v` gives. -/
def value (v : α → Bool) : Predicate α → Bool
  | always => true
  | leaf a => v a
  | and l r => l.value v && r.value v
  | or l r => l.value v || r.value v

/-- A joint of two sides. The right side is evaluated when the left one answers `on`; any other
answer of the left side is the answer of the joint. -/
inductive Joins : Predicate α → Bool → Predicate α → Predicate α → Prop
  | and (l r : Predicate α) : Joins (.and l r) true l r
  | or (l r : Predicate α) : Joins (.or l r) false l r

/-- Induction that treats both kinds of joints alike. -/
theorem joint_induction {motive : Predicate α → Prop} (always : motive .always)
    (leaf : ∀ a, motive (.leaf a))
    (joint : ∀ p on l r, Joins p on l r → motive l → motive r → motive p) (p : Predicate α) :
    motive p := by
  induction p with
  | always => exact always
  | leaf a => exact leaf a
  | and l r ihl ihr => exact joint _ true l r (.and l r) ihl ihr
  | or l r ihl ihr => exact joint _ false l r (.or l r) ihl ihr

namespace Joins

variable {p l r : Predicate α} {on : Bool} (h : Joins p on l r)
include h

theorem evalM_eq {m : Type → Type} [Monad m] (leaf : α → m Bool) :
    p.evalM leaf = l.evalM leaf >>= fun b => if b = on then r.evalM leaf else pure b := by
  cases h with
  | and l r =>
    rw [evalM]
    congr 1
    funext b
    cases b <;> rfl
  | or l r =>
    rw [evalM]
    congr 1
    funext b
    cases b <;> rfl

theorem part?_left (place : Place) : p.part? (.left :: place) = l.part? place := by
  cases h with
  | and l r => rfl
  | or l r => rfl

theorem part?_right (place : Place) : p.part? (.right :: place) = r.part? place := by
  cases h with
  | and l r => rfl
  | or l r => rfl

theorem part?_nil_ne (a : α) : p.part? [] ≠ some (.leaf a) := by
  cases h with
  | and l r => simp [part?]
  | or l r => simp [part?]

theorem replace_left (place : Place) (q : Predicate α) :
    Joins (p.replace (.left :: place) q) on (l.replace place q) r := by
  cases h with
  | and l r => exact .and _ _
  | or l r => exact .or _ _

theorem replace_right (place : Place) (q : Predicate α) :
    Joins (p.replace (.right :: place) q) on l (r.replace place q) := by
  cases h with
  | and l r => exact .and _ _
  | or l r => exact .or _ _

theorem value_eq (v : α → Bool) : p.value v = if l.value v = on then r.value v else l.value v := by
  cases h with
  | and l r => cases hl : l.value v <;> simp [value, hl]
  | or l r => cases hl : l.value v <;> simp [value, hl]

theorem located (above : Place) :
    Joins (p.located above) on (l.located (above ++ [.left])) (r.located (above ++ [.right])) := by
  cases h with
  | and l r => exact .and _ _
  | or l r => exact .or _ _

end Joins

end

/-- Calls a leaf, which leaves its place in the list of calls even if the test fails. -/
def call (e : Record) (leaf : Place × Test) : OptionT (StateM (List Place)) Bool := do
  modify (· ++ [leaf.1])
  OptionT.mk (pure (leaf.2 e))

/-- What an evaluation gives, and the list of calls that it leaves when it starts with `log`. -/
def outcome (x : OptionT (StateM (List Place)) Bool) (log : List Place) :
    Option Bool × List Place :=
  (x.run.run log).run

/-- What the evaluation of a predicate on an event answers, if no test fails, and the places of the
leaves that it calls, in the order of the calls. -/
def run (p : Predicate Test) (e : Record) : Option Bool × List Place :=
  outcome ((p.located []).evalM (call e)) []

def answer? (p : Predicate Test) (e : Record) : Option Bool := (p.run e).1

def calls (p : Predicate Test) (e : Record) : List Place := (p.run e).2

theorem outcome_pure (b : Bool) (log : List Place) : outcome (pure b) log = (some b, log) := rfl

theorem outcome_call (e : Record) (place : Place) (test : Test) (log : List Place) :
    outcome (call e (place, test)) log = (test e, log ++ [place]) := rfl

theorem outcome_bind (x : OptionT (StateM (List Place)) Bool)
    (f : Bool → OptionT (StateM (List Place)) Bool) (log : List Place) :
    outcome (x >>= f) log = match outcome x log with
      | (some b, log') => outcome (f b) log'
      | (none, log') => (none, log') := by
  rw [outcome, OptionT.run_bind, Option.elimM, StateT.run_bind, outcome]
  rw [Id.run_bind]
  generalize (x.run.run log).run = out
  obtain ⟨b, log'⟩ := out
  cases b <;> rfl

/-- Whether a predicate stands alone or within another one, and whatever has been called before, the
evaluation calls the same leaves and gives the same answer. -/
theorem outcome_located (p : Predicate Test) (e : Record) (above : Place) (log : List Place) :
    outcome ((p.located above).evalM (call e)) log =
      (p.answer? e, log ++ (p.calls e).map (above ++ ·)) := by
  induction p using joint_induction generalizing above log with
  | always => simp [located, evalM, answer?, calls, run, outcome_pure]
  | leaf a => simp [located, evalM, answer?, calls, run, outcome_call]
  | joint p on l r h ihl ihr =>
    rw [answer?, calls, run, (h.located above).evalM_eq, (h.located []).evalM_eq, outcome_bind,
      outcome_bind, ihl, ihl]
    cases l.answer? e with
    | none => simp [Function.comp_def]
    | some b =>
      by_cases hb : b = on
      · simp [hb, ihr, Function.comp_def]
      · simp [hb, outcome_pure, Function.comp_def]

section

variable {p l r : Predicate Test} {on : Bool} (h : Joins p on l r) (e : Record)
include h

theorem Joins.run_eq : p.run e =
    (if l.answer? e = some on then r.answer? e else l.answer? e,
      (l.calls e).map (.left :: ·) ++
        if l.answer? e = some on then (r.calls e).map (.right :: ·) else []) := by
  rw [run, (h.located []).evalM_eq, outcome_bind, outcome_located]
  cases l.answer? e with
  | none => simp
  | some b =>
    by_cases hb : b = on
    · simp [hb, outcome_located]
    · simp [hb, outcome_pure]

theorem Joins.answer?_eq : p.answer? e =
    if l.answer? e = some on then r.answer? e else l.answer? e := by
  rw [answer?, h.run_eq]

theorem Joins.calls_eq : p.calls e = (l.calls e).map (.left :: ·) ++
    if l.answer? e = some on then (r.calls e).map (.right :: ·) else [] := by
  rw [calls, h.run_eq]

theorem Joins.mem_calls_left {place : Place} : .left :: place ∈ p.calls e ↔ place ∈ l.calls e := by
  rw [h.calls_eq]
  split <;> simp

theorem Joins.mem_calls_right {place : Place} :
    .right :: place ∈ p.calls e ↔ l.answer? e = some on ∧ place ∈ r.calls e := by
  rw [h.calls_eq]
  split <;> simp_all

theorem Joins.nil_not_mem_calls : [] ∉ p.calls e := by
  rw [h.calls_eq]
  split <;> simp

end

/-- The leaves are called from left to right. -/
theorem pairwise_calls (p : Predicate Test) (e : Record) : (p.calls e).Pairwise LeftOf := by
  induction p using joint_induction with
  | always => exact .nil
  | leaf a => exact List.pairwise_singleton _ _
  | joint p on l r h ihl ihr =>
    rw [h.calls_eq, List.pairwise_append]
    refine ⟨?_, ?_, ?_⟩
    · exact List.pairwise_map.mpr (ihl.imp fun hab => hab.cons .left)
    · split
      · exact List.pairwise_map.mpr (ihr.imp fun hab => hab.cons .right)
      · exact .nil
    · intro a ha b hb
      obtain ⟨a', -, rfl⟩ := List.mem_map.mp ha
      split at hb
      · obtain ⟨b', -, rfl⟩ := List.mem_map.mp hb
        exact leftOf_sides a' b'
      · simp at hb

theorem nodup_calls (p : Predicate Test) (e : Record) : (p.calls e).Nodup := by
  refine (p.pairwise_calls e).imp fun {a b} hab => ?_
  rintro rfl
  exact not_leftOf_self a hab

/-- Whether the joints above a place leave it open what the part there answers: where it lies on
the right, the left side of an *and* answers yes and the left side of an *or* answers no. -/
def Reached (p : Predicate Test) (e : Record) (place : Place) : Prop :=
  ∀ above below, place = above ++ .right :: below → ∃ l r,
    p.part? above = some (.and l r) ∧ l.answer? e = some true ∨
      p.part? above = some (.or l r) ∧ l.answer? e = some false

section

variable {p l r : Predicate Test} {on : Bool} (h : Joins p on l r) (e : Record)
include h

theorem Joins.reached_left {place : Place} : p.Reached e (.left :: place) ↔ l.Reached e place := by
  constructor
  · intro hp above below hplace
    have habove := hp (.left :: above) below (by rw [hplace, List.cons_append])
    simpa only [h.part?_left] using habove
  · intro hl above below hplace
    cases above with
    | nil => simp at hplace
    | cons side above =>
      obtain ⟨rfl, hrest⟩ := List.cons.inj hplace
      simpa only [h.part?_left] using hl above below hrest

theorem Joins.reached_right {place : Place} :
    p.Reached e (.right :: place) ↔ l.answer? e = some on ∧ r.Reached e place := by
  constructor
  · intro hp
    have hroot := hp [] place rfl
    refine ⟨?_, fun above below hplace => ?_⟩
    · cases h with
      | and l r => simpa [part?] using hroot
      | or l r => simpa [part?] using hroot
    · have habove := hp (.right :: above) below (by rw [hplace, List.cons_append])
      simpa only [h.part?_right] using habove
  · rintro ⟨hleft, hr⟩ above below hplace
    cases above with
    | nil =>
      cases h with
      | and l r => exact ⟨l, r, .inl ⟨rfl, hleft⟩⟩
      | or l r => exact ⟨l, r, .inr ⟨rfl, hleft⟩⟩
    | cons side above =>
      obtain ⟨rfl, hrest⟩ := List.cons.inj hplace
      simpa only [h.part?_right] using hr above below hrest

end

/-- The leaves that are called are the ones that are reached. -/
theorem mem_calls_iff (p : Predicate Test) (e : Record) (place : Place) :
    place ∈ p.calls e ↔ (∃ a, p.part? place = some (.leaf a)) ∧ p.Reached e place := by
  induction p using joint_induction generalizing place with
  | always =>
    have hcalls : (always : Predicate Test).calls e = [] := rfl
    rw [hcalls]
    cases place <;> simp [part?]
  | leaf a =>
    have hcalls : (leaf a).calls e = [[]] := rfl
    rw [hcalls]
    cases place with
    | nil => simp [part?, Reached]
    | cons side place => simp [part?]
  | joint p on l r h ihl ihr =>
    cases place with
    | nil => simp [h.nil_not_mem_calls, h.part?_nil_ne]
    | cons side place =>
      cases side with
      | left => rw [h.mem_calls_left, h.part?_left, h.reached_left, ihl]
      | right =>
        rw [h.mem_calls_right, h.part?_right, h.reached_right, ihr]
        exact and_left_comm

/-- If no leaf that is called fails, the answer is the Boolean value of the predicate, whatever the
leaves stand for that are not called. -/
theorem answer?_eq_value (p : Predicate Test) (e : Record) (v : Test → Bool)
    (h : ∀ place ∈ p.calls e, ∀ a, p.part? place = some (.leaf a) → a e = some (v a)) :
    p.answer? e = some (p.value v) := by
  induction p using joint_induction with
  | always => rfl
  | leaf a => exact h [] (List.mem_singleton.mpr rfl) a rfl
  | joint p on l r hp ihl ihr =>
    have hl := ihl fun place hplace a ha =>
      h (.left :: place) ((hp.mem_calls_left e).mpr hplace) a ((hp.part?_left place).trans ha)
    rw [hp.answer?_eq, hp.value_eq, hl]
    by_cases hon : l.value v = on
    · have hleft : l.answer? e = some on := hl.trans (congrArg some hon)
      rw [if_pos (congrArg some hon), if_pos hon]
      exact ihr fun place hplace a ha =>
        h (.right :: place) ((hp.mem_calls_right e).mpr ⟨hleft, hplace⟩) a
          ((hp.part?_right place).trans ha)
    · rw [if_neg (by simpa using hon), if_neg hon]

/-- What stands in the place of a leaf that is not called makes no difference. -/
theorem run_replace {p : Predicate Test} {e : Record} {place : Place} {a : Test}
    (ha : p.part? place = some (.leaf a)) (hplace : place ∉ p.calls e) (q : Predicate Test) :
    (p.replace place q).run e = p.run e := by
  induction p using joint_induction generalizing place with
  | always => cases place <;> simp [part?] at ha
  | leaf b =>
    cases place with
    | nil => exact absurd (List.mem_singleton.mpr rfl) hplace
    | cons side place => simp [part?] at ha
  | joint p on l r h ihl ihr =>
    cases place with
    | nil => exact absurd ha (h.part?_nil_ne a)
    | cons side place =>
      cases side with
      | left =>
        rw [h.part?_left] at ha
        rw [h.mem_calls_left] at hplace
        have hl := ihl ha hplace
        have hanswer : (l.replace place q).answer? e = l.answer? e := congrArg Prod.fst hl
        have hcalls : (l.replace place q).calls e = l.calls e := congrArg Prod.snd hl
        rw [(h.replace_left place q).run_eq, h.run_eq, hanswer, hcalls]
      | right =>
        rw [h.part?_right] at ha
        rw [h.mem_calls_right, not_and] at hplace
        rw [(h.replace_right place q).run_eq, h.run_eq]
        by_cases hleft : l.answer? e = some on
        · have hr := ihr ha (hplace hleft)
          have hanswer : (r.replace place q).answer? e = r.answer? e := congrArg Prod.fst hr
          have hcalls : (r.replace place q).calls e = r.calls e := congrArg Prod.snd hr
          rw [hanswer, hcalls]
        · simp only [hleft, if_false]

/-- The evaluation of a predicate calls its leaves from left to right and none of them twice. It
calls the leaves that the joints above them do not settle, and no others. What it answers is the
Boolean value of the predicate, and a leaf that it does not call can be replaced by any predicate
without a change in the answer or in the calls. -/
theorem shortCircuits (p : Predicate Test) (e : Record) :
    (p.calls e).Pairwise LeftOf ∧ (p.calls e).Nodup ∧
    (∀ place, place ∈ p.calls e ↔
      (∃ a, p.part? place = some (.leaf a)) ∧ p.Reached e place) ∧
    (∀ v : Test → Bool, (∀ place ∈ p.calls e, ∀ a, p.part? place = some (.leaf a) →
      a e = some (v a)) → p.answer? e = some (p.value v)) ∧
    ∀ place a, p.part? place = some (.leaf a) → place ∉ p.calls e → ∀ q,
      (p.replace place q).answer? e = p.answer? e ∧ (p.replace place q).calls e = p.calls e := by
  refine ⟨p.pairwise_calls e, p.nodup_calls e, p.mem_calls_iff e, p.answer?_eq_value e, ?_⟩
  intro place a ha hplace q
  have hrun := run_replace ha hplace q
  exact ⟨congrArg Prod.fst hrun, congrArg Prod.snd hrun⟩

/-- Whether the event has the field. -/
def has (field : String) : Test := fun e => some (e.valueOf? field).isSome

def failing : Test := fun _ => none

/-- Events with a status, or with a place and something that cannot be tested. -/
def guarded : Predicate Test :=
  .or (.and (.leaf (has "SUMMARY")) (.leaf (has "STATUS")))
    (.and (.leaf (has "LOCATION")) (.leaf failing))

def titled : Record := [{ name := "SUMMARY", values := ["Choir"] }]

theorem calls_guarded : guarded.calls titled =
    [[.left, .left], [.left, .right], [.right, .left]] := by
  decide

theorem shortCircuits_guarded :
    (∀ place ∈ guarded.calls titled, ∀ a, guarded.part? place = some (.leaf a) →
      a titled = some ((a titled).getD true)) ∧
    guarded.answer? titled = some false ∧
    guarded.part? [.right, .right] = some (.leaf failing) ∧
    [.right, .right] ∉ guarded.calls titled ∧
    (guarded.replace [.right, .right] .always).answer? titled = guarded.answer? titled := by
  obtain ⟨-, -, -, hvalue, hreplace⟩ := shortCircuits guarded titled
  have hanswers : ∀ place ∈ guarded.calls titled, ∀ a, guarded.part? place = some (.leaf a) →
      a titled = some ((a titled).getD true) := by
    rw [calls_guarded]
    simp [guarded, part?, has]
  have hnot : [.right, .right] ∉ guarded.calls titled := by
    rw [calls_guarded]
    decide
  exact ⟨hanswers, hvalue (fun a => (a titled).getD true) hanswers, rfl, hnot,
    (hreplace [.right, .right] failing rfl hnot .always).1⟩

end Predicate

end CalendarRelay.Rule
