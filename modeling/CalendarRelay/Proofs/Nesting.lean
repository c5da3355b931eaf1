import Mathlib
import CalendarRelay.Pattern.Search

namespace CalendarRelay.Pattern

/-- An instruction opens a group where it notes the start of it, and closes the group where it
notes the end. -/
def Instr.opening (g : Nat) : Instr → Int
  | .save slot => if slot = 2 * g then 1 else if slot = 2 * g + 1 then -1 else 0
  | _ => 0

/-- How often the first `i` instructions of some code open a group without closing it again. -/
def depth (g : Nat) : List Instr → (i : Nat) → Int
  | [], _ => 0
  | _ :: _, 0 => 0
  | x :: code, i + 1 => x.opening g + depth g code i

/-- The offsets that an instruction may jump by. -/
def Instr.offsets : Instr → List Int
  | .fork a b => [a, b]
  | .jump a => [a]
  | _ => []

/-- The instruction at place `i` of some code goes on in it, and jumps to places of the same depth
only. -/
def Instr.Level (g : Nat) (code : List Instr) (i : Nat) (x : Instr) : Prop :=
  x ≠ .accept ∧
    ∀ a ∈ x.offsets, ∃ j ≤ code.length, (i : Int) + a = j ∧ depth g code j = depth g code i

/-- The instructions of a part of some code that starts at place `i` stay at their depths. -/
def LevelFrom (g : Nat) (code : List Instr) (i : Nat) (part : List Instr) : Prop :=
  ∀ (k : Nat) (x : Instr), part[k]? = some x → x.Level g code (i + k)

/-- Code in which what opens and what closes a group stand like brackets, with jumps between places
of the same depth only. -/
structure Nested (g : Nat) (code : List Instr) : Prop where
  closed : depth g code code.length = 0
  nonneg : ∀ i, 0 ≤ depth g code i
  level : LevelFrom g code 0 code

section Depth

variable {g : Nat} {x : Instr} {code others : List Instr} {i : Nat}

@[simp]
theorem depth_nil : depth g [] i = 0 := rfl

@[simp]
theorem depth_zero : depth g code 0 = 0 := by
  cases code <;> rfl

@[simp]
theorem depth_cons_succ : depth g (x :: code) (i + 1) = x.opening g + depth g code i := rfl

theorem depth_append (g : Nat) (code others : List Instr) (i : Nat) :
    depth g (code ++ others) (code.length + i) =
      depth g code code.length + depth g others i := by
  induction code with
  | nil => simp
  | cons x code ih =>
    rw [List.length_cons, List.cons_append, Nat.add_right_comm, depth_cons_succ, ih,
      depth_cons_succ, add_assoc]

theorem depth_append_of_le (h : i ≤ code.length) (others : List Instr) :
    depth g (code ++ others) i = depth g code i := by
  induction code generalizing i with
  | nil => simp [Nat.le_zero.mp h]
  | cons x code ih =>
    cases i with
    | zero => simp
    | succ i => simp [ih (Nat.le_of_succ_le_succ h)]

theorem depth_succ (h : code[i]? = some x) :
    depth g code (i + 1) = depth g code i + x.opening g := by
  induction code generalizing i with
  | nil => simp at h
  | cons y code ih =>
    cases i with
    | zero =>
      obtain rfl : y = x := by simpa using h
      simp
    | succ i =>
      have hi : code[i]? = some x := by simpa using h
      rw [depth_cons_succ, depth_cons_succ, ih hi, add_assoc]

end Depth

section Level

variable {g : Nat} {x : Instr} {code others part : List Instr} {i : Nat}

theorem levelFrom_nil : LevelFrom g code i [] := fun k x h => by simp at h

theorem levelFrom_cons : LevelFrom g code i (x :: part) ↔
    x.Level g code i ∧ LevelFrom g code (i + 1) part := by
  constructor
  · intro h
    refine ⟨h 0 x rfl, fun k y hy => ?_⟩
    rw [Nat.add_assoc, Nat.add_comm 1]
    exact h (k + 1) y hy
  · rintro ⟨hx, hpart⟩ k y hy
    cases k with
    | zero =>
      obtain rfl : x = y := by simpa using hy
      exact hx
    | succ k =>
      rw [Nat.add_comm k, ← Nat.add_assoc]
      exact hpart k y hy

theorem levelFrom_append : LevelFrom g code i (part ++ others) ↔
    LevelFrom g code i part ∧ LevelFrom g code (i + part.length) others := by
  induction part generalizing i with
  | nil => simp [levelFrom_nil]
  | cons x part ih =>
    rw [List.cons_append, levelFrom_cons, levelFrom_cons, ih, and_assoc, List.length_cons,
      Nat.add_assoc, Nat.add_comm 1]

theorem Instr.level_of_offsets_eq_nil (haccept : x ≠ .accept) (h : x.offsets = []) :
    x.Level g code i :=
  ⟨haccept, fun a ha => by simp [h] at ha⟩

theorem Instr.level_choice {greedy : Bool} {inside outside : Int}
    (hinside : ∃ j ≤ code.length, (i : Int) + inside = j ∧ depth g code j = depth g code i)
    (houtside : ∃ j ≤ code.length, (i : Int) + outside = j ∧ depth g code j = depth g code i) :
    (Instr.choice greedy inside outside).Level g code i := by
  refine ⟨by cases greedy <;> simp [Instr.choice], fun a ha => ?_⟩
  obtain rfl | rfl : a = inside ∨ a = outside := by
    cases greedy <;> simp [Instr.choice, Instr.offsets] at ha <;> tauto
  · exact hinside
  · exact houtside

@[simp]
theorem opening_choice {greedy : Bool} {inside outside : Int} :
    (Instr.choice greedy inside outside).opening g = 0 := by
  cases greedy <;> rfl

end Level

section Nested

variable {g : Nat} {x y : Instr} {code others : List Instr}

/-- Within other code, nested code keeps the depths between its instructions. -/
theorem Nested.levelFrom (h : Nested g code) (before after : List Instr) :
    LevelFrom g (before ++ (code ++ after)) before.length code := by
  have hdepth {k : Nat} (hk : k ≤ code.length) :
      depth g (before ++ (code ++ after)) (before.length + k) =
        depth g before before.length + depth g code k := by
    rw [depth_append, depth_append_of_le hk]
  intro k x hx
  refine ⟨(h.level k x hx).1, fun a ha => ?_⟩
  obtain ⟨j, hj, hjump, hlevel⟩ := (h.level k x hx).2 a ha
  have hk : k ≤ code.length := (List.getElem?_eq_some_iff.mp hx).1.le
  refine ⟨before.length + j, ?_, ?_, ?_⟩
  · simp only [List.length_append]
    omega
  · push_cast at hjump ⊢
    omega
  · rw [hdepth hj, hdepth hk, hlevel, Nat.zero_add]

theorem nested_nil : Nested g [] := ⟨by simp, by simp, levelFrom_nil⟩

theorem nested_singleton (haccept : x ≠ .accept) (hopening : x.opening g = 0)
    (hoffsets : x.offsets = []) : Nested g [x] where
  closed := by simp [hopening]
  nonneg i := by cases i <;> simp [hopening]
  level := levelFrom_cons.mpr ⟨Instr.level_of_offsets_eq_nil haccept hoffsets, levelFrom_nil⟩

theorem Nested.append (h : Nested g code) (hothers : Nested g others) :
    Nested g (code ++ others) where
  closed := by rw [List.length_append, depth_append, h.closed, hothers.closed, add_zero]
  nonneg i := by
    rcases Nat.le_total i code.length with hi | hi
    · rw [depth_append_of_le hi]
      exact h.nonneg i
    · obtain ⟨k, rfl⟩ := Nat.exists_eq_add_of_le hi
      rw [depth_append, h.closed, zero_add]
      exact hothers.nonneg k
  level := by
    rw [levelFrom_append, Nat.zero_add]
    exact ⟨h.levelFrom [] others, by simpa using hothers.levelFrom code []⟩

theorem Nested.replicate (h : Nested g code) (n : Nat) :
    Nested g (List.replicate n code).flatten := by
  induction n with
  | zero => exact nested_nil
  | succ n ih =>
    rw [List.replicate_succ, List.flatten_cons]
    exact h.append ih

theorem Nested.depth_append (h : Nested g code) (others : List Instr) (i : Nat) :
    depth g (code ++ others) (code.length + i) = depth g others i := by
  rw [Pattern.depth_append, h.closed, zero_add]

/-- Code with an instruction before it that neither opens nor closes the group. -/
theorem Nested.cons (h : Nested g code) (hopening : x.opening g = 0)
    (hlevel : x.Level g (x :: code) 0) : Nested g (x :: code) where
  closed := by simp [hopening, h.closed]
  nonneg i := by
    cases i with
    | zero => simp
    | succ i => simpa [hopening] using h.nonneg i
  level := levelFrom_cons.mpr ⟨hlevel, by simpa using h.levelFrom [x] []⟩

/-- Code between two instructions of which the second closes what the first opens. -/
theorem Nested.between (h : Nested g code) (hx : 0 ≤ x.opening g)
    (hopening : x.opening g + y.opening g = 0) (hlevel : x.Level g (x :: (code ++ [y])) 0)
    (hlevel' : y.Level g (x :: (code ++ [y])) (code.length + 1)) :
    Nested g (x :: (code ++ [y])) where
  closed := by
    rw [List.length_cons, depth_cons_succ, List.length_append, h.depth_append,
      List.length_singleton, depth_cons_succ, depth_nil, add_zero, hopening]
  nonneg i := by
    cases i with
    | zero => simp
    | succ i =>
      rw [depth_cons_succ]
      rcases Nat.le_total i code.length with hi | hi
      · rw [depth_append_of_le hi]
        exact add_nonneg hx (h.nonneg i)
      · obtain ⟨k, rfl⟩ := Nat.exists_eq_add_of_le hi
        rw [h.depth_append]
        cases k with
        | zero => simpa using hx
        | succ k => rw [depth_cons_succ, depth_nil, add_zero, hopening]
  level := by
    rw [levelFrom_cons, levelFrom_append, levelFrom_cons]
    refine ⟨hlevel, h.levelFrom [x] [y], ?_, levelFrom_nil⟩
    rwa [Nat.zero_add, Nat.add_comm 1]

/-- Code with an instruction behind it that neither opens nor closes the group. -/
theorem Nested.snoc (h : Nested g code) (hopening : x.opening g = 0)
    (hlevel : x.Level g (code ++ [x]) code.length) : Nested g (code ++ [x]) where
  closed := by simp [h.depth_append, hopening]
  nonneg i := by
    rcases Nat.le_total i code.length with hi | hi
    · rw [depth_append_of_le hi]
      exact h.nonneg i
    · obtain ⟨k, rfl⟩ := Nat.exists_eq_add_of_le hi
      rw [h.depth_append]
      cases k <;> simp [hopening]
  level := by
    rw [levelFrom_append, levelFrom_cons, Nat.zero_add]
    exact ⟨h.levelFrom [] [x], hlevel, levelFrom_nil⟩

end Nested

section Code

variable {g : Nat} {code : List Instr}

theorem optionalCode_succ (code : List Instr) (greedy : Bool) (count : Nat) :
    optionalCode code greedy (count + 1) =
      .choice greedy 1 (((count + 1) * (code.length + 1) : Nat) : Int) ::
        (code ++ optionalCode code greedy count) := by
  simp [optionalCode, List.range_succ_eq_map, List.flatMap_map]

theorem length_optionalCode (code : List Instr) (greedy : Bool) (count : Nat) :
    (optionalCode code greedy count).length = count * (code.length + 1) := by
  induction count with
  | zero => simp [optionalCode]
  | succ count ih =>
    rw [optionalCode_succ, List.length_cons, List.length_append, ih, Nat.succ_mul]
    omega

theorem Nested.optionalCode (h : Nested g code) (greedy : Bool) (count : Nat) :
    Nested g (optionalCode code greedy count) := by
  induction count with
  | zero => exact nested_nil
  | succ count ih =>
    have hrest : Nested g (code ++ Pattern.optionalCode code greedy count) := h.append ih
    have hlength : (code ++ Pattern.optionalCode code greedy count).length + 1 =
        (count + 1) * (code.length + 1) := by
      rw [List.length_append, length_optionalCode, Nat.succ_mul]
      omega
    rw [optionalCode_succ, ← hlength]
    refine hrest.cons opening_choice (Instr.level_choice ⟨1, by simp, by simp, by simp⟩ ?_)
    refine ⟨_, le_rfl, by simp, ?_⟩
    rw [List.length_cons, depth_cons_succ, hrest.closed, opening_choice, depth_zero, add_zero]

/-- Before and behind code that stands between two instructions the depth is the same. -/
theorem Nested.depth_between (h : Nested g code) {x y : Instr} (hx : x.opening g = 0)
    (hy : y.opening g = 0) {j : Nat}
    (hj : j = 0 ∨ j = 1 ∨ j = code.length + 1 ∨ j = code.length + 2) :
    depth g (x :: (code ++ [y])) j = 0 := by
  rcases hj with rfl | rfl | rfl | rfl
  · exact depth_zero
  · simp [hx]
  · simp [hx, depth_append_of_le, h.closed]
  · simp [hx, hy, h.depth_append]

theorem Nested.loopCode (h : Nested g code) (nonempty greedy : Bool) (least : Nat) :
    Nested g (loopCode code nonempty greedy least) := by
  cases least with
  | zero =>
    have hlevel {x y : Instr} (hx : x.opening g = 0) (hy : y.opening g = 0) {i j : Nat}
        (hi : i = 0 ∨ i = code.length + 1)
        (hj : j = 0 ∨ j = 1 ∨ j = code.length + 1 ∨ j = code.length + 2) :
        depth g (x :: (code ++ [y])) j = depth g (x :: (code ++ [y])) i := by
      rw [h.depth_between hx hy hj, h.depth_between hx hy (by omega)]
    have hfork {y : Instr} (hy : y.opening g = 0) :
        (Instr.choice greedy 1 (code.length + 2)).Level g
          (.choice greedy 1 (code.length + 2) :: (code ++ [y])) 0 :=
      Instr.level_choice ⟨1, by simp, by simp, hlevel opening_choice hy (by simp) (by simp)⟩
        ⟨code.length + 2, by simp, by simp, hlevel opening_choice hy (by simp) (by simp)⟩
    rw [Pattern.loopCode]
    split
    · refine h.between opening_choice.ge (by rw [opening_choice]; rfl) (hfork rfl) ?_
      refine ⟨by simp, fun a ha => ?_⟩
      obtain rfl : a = -(code.length + 1) := by simpa [Instr.offsets] using ha
      exact ⟨0, by simp, by simp, hlevel opening_choice rfl (by simp) (by simp)⟩
    · refine h.between opening_choice.ge (by simp) (hfork opening_choice)
        (Instr.level_choice ?_ ?_)
      · exact ⟨1, by simp, by simp, hlevel opening_choice opening_choice (by simp) (by simp)⟩
      · exact ⟨code.length + 2, by simp, by push_cast; ring,
          hlevel opening_choice opening_choice (by simp) (by simp)⟩
  | succ least =>
    rw [Pattern.loopCode, List.append_assoc]
    refine (h.replicate least).append (h.snoc opening_choice (Instr.level_choice ?_ ?_))
    · exact ⟨0, by simp, by simp, by simp [depth_append_of_le, h.closed]⟩
    · exact ⟨code.length + 1, by simp, by simp,
        by simp [h.depth_append, depth_append_of_le, h.closed]⟩

theorem Nested.group (h : Nested g code) (index : Nat) :
    Nested g (.save (2 * index) :: (code ++ [.save (2 * index + 1)])) := by
  refine h.between ?_ ?_ (Instr.level_of_offsets_eq_nil (by simp) rfl)
    (Instr.level_of_offsets_eq_nil (by simp) rfl)
  · simp only [Instr.opening]
    split
    · simp
    · split <;> omega
  · simp only [Instr.opening]
    split_ifs <;> omega

theorem Nested.fork {others : List Instr} (h : Nested g code) (hothers : Nested g others) :
    Nested g (.fork 1 ((code.length + 2 : Nat) : Int) :: (code ++
      .jump ((others.length + 1 : Nat) : Int) :: others)) := by
  have hrest : Nested g (.jump ((others.length + 1 : Nat) : Int) :: others) := by
    refine hothers.cons rfl ⟨by simp, fun a ha => ?_⟩
    obtain rfl : a = ((others.length + 1 : Nat) : Int) := by simpa [Instr.offsets] using ha
    exact ⟨others.length + 1, by simp, by simp, by simp [Instr.opening, hothers.closed]⟩
  refine (h.append hrest).cons rfl ⟨by simp, fun a ha => ?_⟩
  obtain rfl | rfl : a = 1 ∨ a = ((code.length + 2 : Nat) : Int) := by
    simpa [Instr.offsets] using ha
  · exact ⟨1, by simp, by simp, by simp [Instr.opening]⟩
  · exact ⟨code.length + 2, by simp, by simp, by simp [Instr.opening, h.depth_append]⟩

end Code

mutual

/-- In the code of an expression groups are nested, whatever their indices are. -/
theorem nested_code (g : Nat) : (e : Expr) → Nested g e.code
  | .empty => nested_nil
  | .chars _ => nested_singleton (by simp) rfl rfl
  | .look _ => nested_singleton (by simp) rfl rfl
  | .times e least none greedy => (nested_code g e).loopCode _ greedy least
  | .times e least (some most) greedy =>
    ((nested_code g e).replicate least).append
      ((nested_code g e).optionalCode greedy (most - least))
  | .group index _ e => (nested_code g e).group index
  | .cat items => nested_catCode g items
  | .alt branches => nested_altCode g branches

theorem nested_catCode (g : Nat) : (items : List Expr) → Nested g (Expr.catCode items)
  | [] => nested_nil
  | e :: rest => (nested_code g e).append (nested_catCode g rest)

theorem nested_altCode (g : Nat) : (branches : List Expr) → Nested g (Expr.altCode branches)
  | [] => nested_nil
  | [e] => nested_code g e
  | e :: e' :: rest => (nested_code g e).fork (nested_altCode g (e' :: rest))

end

section Program

variable {g i : Nat} {e : Expr} {x : Instr}

/-- The program of an expression is nested up to where a match is complete. -/
theorem exists_nested_program (g : Nat) (e : Expr) :
    ∃ code, Nested g code ∧ e.program.toList = code ++ [.accept] :=
  ⟨_, (nested_code g e).group 0, by simp [Expr.program]⟩

theorem depth_program_nonneg (g : Nat) (e : Expr) (i : Nat) : 0 ≤ depth g e.program.toList i := by
  obtain ⟨code, hcode, hprogram⟩ := exists_nested_program g e
  rw [hprogram]
  rcases Nat.le_total i code.length with hi | hi
  · rw [depth_append_of_le hi]
    exact hcode.nonneg i
  · obtain ⟨k, rfl⟩ := Nat.exists_eq_add_of_le hi
    rw [hcode.depth_append]
    cases k <;> simp [Instr.opening]

/-- Where a match is complete no group is open. -/
theorem depth_program_accept (h : e.program[i]? = some .accept) :
    depth g e.program.toList i = 0 := by
  obtain ⟨code, hcode, hprogram⟩ := exists_nested_program g e
  rw [← Array.getElem?_toList, hprogram] at h
  rw [hprogram]
  rcases Nat.lt_trichotomy i code.length with hi | rfl | hi
  · rw [List.getElem?_append_left hi] at h
    exact absurd rfl (hcode.level i _ h).1
  · simpa using hcode.depth_append [.accept] 0
  · simp [hi] at h

/-- The program jumps between places of the same depth only. -/
theorem depth_program_target (h : e.program[i]? = some x) {a : Int} (ha : a ∈ x.offsets) :
    depth g e.program.toList (target i a) = depth g e.program.toList i := by
  obtain ⟨code, hcode, hprogram⟩ := exists_nested_program g e
  rw [← Array.getElem?_toList, hprogram] at h
  rw [hprogram]
  rcases Nat.lt_or_ge i code.length with hi | hi
  · rw [List.getElem?_append_left hi] at h
    obtain ⟨j, hj, hjump, hlevel⟩ := (hcode.level i x h).2 a ha
    rw [Nat.zero_add] at hjump hlevel
    rw [target, hjump, Int.toNat_natCast, depth_append_of_le hj, depth_append_of_le hi.le, hlevel]
  · rw [List.getElem?_append_right hi] at h
    obtain rfl : x = .accept := by
      have hmem := List.mem_of_getElem? h
      simpa using hmem
    simp [Instr.offsets] at ha

theorem depth_program_succ (h : e.program[i]? = some x) :
    depth g e.program.toList (i + 1) = depth g e.program.toList i + x.opening g := by
  rw [← Array.getElem?_toList] at h
  exact depth_succ h

end Program

end CalendarRelay.Pattern
