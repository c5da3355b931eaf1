import CalendarRelay.Proofs.Course

namespace CalendarRelay

open Rule

namespace Rule

variable {first second : List Rule} {r s : Record} {out : Option Record} {n m : Nat}

theorem Course.append_removed (h : Course first r none n) (second : List Rule) :
    Course (first ++ second) r none n := by
  -- the outcome becomes a variable, for an induction on the course
  generalize hnone : (none : Option Record) = out at h
  induction h with
  | done r => simp at hnone
  | skipped hfilter _ ih => exact .skipped hfilter (ih hnone)
  | removed hfilter edits => exact .removed hfilter edits
  | edited hfilter edits _ ih => exact .edited hfilter edits (ih hnone)

theorem Course.append (h : Course first r (some s) n) (rest : Course second s out m) :
    Course (first ++ second) r out (n + m) := by
  generalize hsome : some s = left at h
  induction h with
  | done r =>
    have hr : s = r := Option.some.inj hsome
    rw [Nat.zero_add]
    exact hr ▸ rest
  | skipped hfilter _ ih => exact .skipped hfilter (ih hsome)
  | removed hfilter edits => simp at hsome
  | edited hfilter edits _ ih =>
    rw [Nat.add_right_comm]
    exact .edited hfilter edits (ih hsome)

/-- What the first rules have removed stays so, and what they leave goes on to the others. -/
theorem fate_append (first second : List Rule) (c : Component) : fate (first ++ second) c =
    match fate first c with
    | (none, n) => (none, n)
    | (some d, n) => ((fate second d).1, n + (fate second d).2) := by
  cases hevent : c.isEvent with
  | false => simp [fate_of_other hevent]
  | true =>
    obtain ⟨out, n, course⟩ := exists_course first c.properties
    cases out with
    | none =>
      have hall := course.append_removed second
      rw [fate_of_course hevent course, fate_of_course hevent hall]
      rfl
    | some s =>
      obtain ⟨out, m, rest⟩ := exists_course second s
      have hall := course.append rest
      have hkept : Component.isEvent { c with properties := s } = true := hevent
      rw [fate_of_course hevent course, fate_of_course hevent hall]
      simp only [Option.map_some, fate_of_course hkept rest]

theorem components_run_append (first second : List Rule) (components : List Component) :
    (run (first ++ second) components).value.1 =
      (run second (run first components).value.1).value.1 := by
  rw [components_run, components_run, components_run, List.filterMap_filterMap]
  congr 1
  funext c
  rw [fate_append]
  obtain ⟨left, n⟩ := fate first c
  cases left <;> rfl

theorem rulesMatched_run_append (first second : List Rule) (components : List Component) :
    (run (first ++ second) components).value.2.rulesMatched =
      (run first components).value.2.rulesMatched +
        (run second (run first components).value.1).value.2.rulesMatched := by
  induction components with
  | nil => rfl
  | cons c rest ih =>
    rw [rulesMatched_run_cons, rulesMatched_run_cons, ih, fate_append, value_run_cons]
    obtain ⟨left, n⟩ := fate first c
    cases left with
    | none => simp only [Option.toList_none, List.nil_append, Nat.add_assoc]
    | some d =>
      have hcons := rulesMatched_run_cons second (run first rest).value.1 d
      simp only [Option.toList_some, List.singleton_append, hcons]
      omega

/-- A run of two lists of rules gives what the second gives of what the first has left. The events
are those that the first one sees; removals and matches add up. -/
theorem run_append (first second : List Rule) (components : List Component) :
    (run (first ++ second) components).value =
      ((run second (run first components).value.1).value.1,
        { events := (run first components).value.2.events
          removed := (run first components).value.2.removed +
            (run second (run first components).value.1).value.2.removed
          rulesMatched := (run first components).value.2.rulesMatched +
            (run second (run first components).value.1).value.2.rulesMatched }) := by
  have hcomponents := components_run_append first second components
  have hevents : (run (first ++ second) components).value.2.events =
      (run first components).value.2.events := by
    rw [events_run, events_run]
  have hremoved : (run (first ++ second) components).value.2.removed =
      (run first components).value.2.removed +
        (run second (run first components).value.1).value.2.removed := by
    -- what is removed is what is missing in the end, in all three runs
    have hall := removed_run (first ++ second) components
    have hfirst := removed_run first components
    have hsecond := removed_run second (run first components).value.1
    rw [hcomponents] at hall
    omega
  have hmatched := rulesMatched_run_append first second components
  rw [← hcomponents, ← hevents, ← hremoved, ← hmatched]

end Rule

end CalendarRelay
