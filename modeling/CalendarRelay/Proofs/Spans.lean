import CalendarRelay.Proofs.Nesting
import CalendarRelay.Pattern.Basic

namespace CalendarRelay

namespace Pattern

/-- One instruction of a thread at a place of the text. -/
inductive Thread.Step (program : Array Instr) (index : Nat) (t : Thread) : Thread → Prop
  | jump {x : Instr} {a : Int} (h : program[t.next]? = some x) (ha : a ∈ x.offsets) :
    Step program index t { t with next := target t.next a }
  | save {slot : Nat} (h : program[t.next]? = some (.save slot)) :
    Step program index t ⟨t.next + 1, t.slots.setIfInBounds slot (some index)⟩
  | look {l : Look} (h : program[t.next]? = some (.look l)) :
    Step program index t { t with next := t.next + 1 }
  | chars {set : Unicode.CharSet} (h : program[t.next]? = some (.chars set)) :
    Step program index t { t with next := t.next + 1 }

/-- The threads that there can be at the places of a text. They start anywhere, and once they have
got to a place they may go on to the next one. -/
inductive Reaches (program : Array Instr) (slotCount : Nat) : Nat → Thread → Prop
  | start (index : Nat) : Reaches program slotCount index ⟨0, Array.replicate slotCount none⟩
  | step {index : Nat} {t u : Thread} (h : Reaches program slotCount index t)
    (hstep : t.Step program index u) : Reaches program slotCount index u
  | later {index : Nat} {t : Thread} (h : Reaches program slotCount index t) :
    Reaches program slotCount (index + 1) t

/-- What the threads that are complete by a place have noted. -/
def Found (program : Array Instr) (slotCount index : Nat) (slots : Slots) : Prop :=
  ∃ t, Reaches program slotCount index t ∧ program[t.next]? = some .accept ∧ t.slots = slots

section Search

variable {program : Array Instr} {slotCount index : Nat}

theorem Reaches.mono {t : Thread} (h : Reaches program slotCount index t) {n : Nat}
    (hn : index ≤ n) : Reaches program slotCount n t := by
  induction hn with
  | refl => exact h
  | step _ ih => exact ih.later

theorem Found.mono {slots : Slots} (h : Found program slotCount index slots) {n : Nat}
    (hn : index ≤ n) : Found program slotCount n slots := by
  obtain ⟨t, ht, haccept⟩ := h
  exact ⟨t, ht.mono hn, haccept⟩

theorem reaches_advance {place : Place} {fuel : Nat} {work : List Thread} {front : Front}
    (hwork : ∀ t ∈ work, Reaches program slotCount place.index t)
    (hready : ∀ t ∈ front.ready.toList, Reaches program slotCount place.index t) :
    ∀ t ∈ (advance program place fuel work front).ready.toList,
      Reaches program slotCount place.index t := by
  induction fuel generalizing work front with
  | zero => exact hready
  | succ fuel ih =>
    cases work with
    | nil => exact hready
    | cons t work =>
      obtain ⟨ht, hrest⟩ := List.forall_mem_cons.mp hwork
      have hon {u : Thread} (hstep : t.Step program place.index u) {others : List Thread}
          (hothers : ∀ t ∈ others, Reaches program slotCount place.index t) :
          ∀ t ∈ u :: others, Reaches program slotCount place.index t :=
        List.forall_mem_cons.mpr ⟨ht.step hstep, hothers⟩
      have hpush : ∀ u ∈ (front.ready.push t).toList,
          Reaches program slotCount place.index u := by
        rw [Array.toList_push, List.forall_mem_append]
        exact ⟨hready, List.forall_mem_singleton.mpr ht⟩
      rw [advance]
      split
      · exact ih hrest hready
      · dsimp only
        split
        · rename_i hinstr
          exact ih (hon (.jump hinstr (by simp [Instr.offsets]))
            (hon (.jump hinstr (by simp [Instr.offsets])) hrest)) hready
        · rename_i hinstr
          exact ih (hon (.jump hinstr (by simp [Instr.offsets])) hrest) hready
        · rename_i hinstr
          exact ih (hon (.save hinstr) hrest) hready
        · rename_i hinstr
          split
          · exact ih (hon (.look hinstr) hrest) hready
          · exact ih hrest hready
        · exact ih hrest hpush
        · exact ih hrest hpush
        · exact ih hrest hready

theorem reaches_consume (c : Option Char) {threads moved : List Thread}
    (hthreads : ∀ t ∈ threads, Reaches program slotCount index t)
    (hmoved : ∀ t ∈ moved, Reaches program slotCount index t) :
    (∀ t ∈ (consume program c threads moved).1, Reaches program slotCount index t) ∧
      ∀ slots ∈ (consume program c threads moved).2, Found program slotCount index slots := by
  induction threads generalizing moved with
  | nil => exact ⟨hmoved, by simp [consume]⟩
  | cons t rest ih =>
    obtain ⟨ht, hrest⟩ := List.forall_mem_cons.mp hthreads
    rw [consume]
    split
    · rename_i haccept
      refine ⟨hmoved, fun slots hslots => ⟨t, ht, haccept, ?_⟩⟩
      exact Option.mem_some.mp hslots
    · rename_i hinstr
      split
      · exact ih hrest (List.forall_mem_cons.mpr ⟨ht.step (.chars hinstr), hmoved⟩)
      · exact ih hrest hmoved
    · exact ih hrest hmoved

/-- What one place of the text adds to a search: the threads that go on, and the best match. -/
theorem reaches_place {place : Place} (fuel : Nat) (visited : Array Bool) (c : Option Char)
    {work : List Thread} {best : Option Slots}
    (hwork : ∀ t ∈ work, Reaches program slotCount place.index t)
    (hbest : ∀ slots ∈ best, Found program slotCount place.index slots) {moved : List Thread}
    {found : Option Slots}
    (h : consume program c (advance program place fuel work ⟨visited, #[]⟩).ready.toList [] =
      (moved, found)) :
    (∀ t ∈ moved, Reaches program slotCount place.index t) ∧
      ∀ slots ∈ (found <|> best), Found program slotCount place.index slots := by
  have hnone : ∀ t ∈ ([] : List Thread), Reaches program slotCount place.index t := by simp
  have hready : ∀ t ∈ (advance program place fuel work ⟨visited, #[]⟩).ready.toList,
      Reaches program slotCount place.index t := reaches_advance hwork hnone
  obtain ⟨hmoved, hfound⟩ := reaches_consume c hready hnone
  rw [h] at hmoved hfound
  refine ⟨hmoved, ?_⟩
  cases found with
  | none => exact hbest
  | some slots => exact hfound

/-- A search finds what a thread has noted that is complete by the end of the text. -/
theorem found_search {before : Option Char} {work : List Thread} {best : Option Slots}
    {text : List Char} (hwork : ∀ t ∈ work, Reaches program slotCount index t)
    (hbest : ∀ slots ∈ best, Found program slotCount index slots) :
    ∀ slots ∈ search program slotCount index before work best text,
      Found program slotCount (index + text.length) slots := by
  have hstarted (index : Nat) (work : List Thread) (best : Option Slots)
      (hwork : ∀ t ∈ work, Reaches program slotCount index t) :
      ∀ t ∈ (if best.isNone then work ++ [⟨0, Array.replicate slotCount none⟩] else work),
        Reaches program slotCount index t := by
    split
    · rw [List.forall_mem_append]
      exact ⟨hwork, List.forall_mem_singleton.mpr (.start index)⟩
    · exact hwork
  fun_induction search program slotCount index before work best text with
  | case1 index before work best start started moved found better place front hconsume =>
    exact (reaches_place _ _ _ (hstarted index work best hwork) hbest hconsume).2
  | case2 index before work best start started moved found better c text hstop place front
      hconsume =>
    intro slots hslots
    exact ((reaches_place _ _ _ (hstarted index work best hwork) hbest hconsume).2 slots
      hslots).mono (Nat.le_add_right _ _)
  | case3 index before work best start started moved found better c text hstop place front
      hconsume ih =>
    obtain ⟨hmoved, hbetter⟩ :=
      reaches_place _ _ _ (hstarted index work best hwork) hbest hconsume
    rw [List.length_cons, Nat.add_comm text.length, ← Nat.add_assoc]
    refine ih (fun t ht => ?_) fun slots hslots => (hbetter slots hslots).mono (Nat.le_succ _)
    exact (hmoved t (List.mem_reverse.mp ht)).later

end Search

/-- Slots whose places come no later than the `n`-th. -/
def SlotsWithin (n : Nat) (slots : Slots) : Prop := ∀ k : Nat, some k ∈ slots → k ≤ n

theorem SlotsWithin.setIfInBounds {n k : Nat} {slots : Slots} (h : SlotsWithin n slots)
    (hk : k ≤ n) (slot : Nat) : SlotsWithin n (slots.setIfInBounds slot (some k)) := by
  intro i hi
  rcases Array.mem_or_eq_of_mem_setIfInBounds hi with hold | hnew
  · exact h i hold
  · exact Option.some.inj hnew ▸ hk

/-- A thread has noted no place that it has not got to. -/
theorem Reaches.within {program : Array Instr} {slotCount index : Nat} {t : Thread}
    (h : Reaches program slotCount index t) : SlotsWithin index t.slots := by
  induction h with
  | start index =>
    intro k hk
    have hnone := (Array.mem_replicate.mp hk).2
    simp at hnone
  | step _ hstep ih =>
    cases hstep with
    | save => exact ih.setIfInBounds le_rfl _
    | jump => exact ih
    | look => exact ih
    | chars => exact ih
  | later _ ih => exact fun k hk => (ih k hk).trans (Nat.le_succ _)

/-- The span that a group has in some slots does not end before it starts. -/
def Ordered (group : Nat) (slots : Slots) : Prop :=
  ∀ s, span? slots group = some s → s.start ≤ s.stop

theorem span?_eq_some_iff {slots : Slots} {group : Nat} {s : Span} :
    span? slots group = some s ↔
      slots[2 * group]? = some (some s.start) ∧ slots[2 * group + 1]? = some (some s.stop) := by
  rw [span?]
  constructor
  · intro h
    split at h
    · rename_i start stop hstart hstop
      obtain rfl := Option.some.inj h
      exact ⟨hstart, hstop⟩
    · simp at h
  · rintro ⟨hstart, hstop⟩
    rw [hstart, hstop]

/-- Noting the end of a group at the present place leaves its span in order, and so does noting a
place of another group. -/
theorem ordered_save {index group slot : Nat} {slots : Slots} (hwithin : SlotsWithin index slots)
    (hslot : slot ≠ 2 * group) (h : slot ≠ 2 * group + 1 → Ordered group slots) :
    Ordered group (slots.setIfInBounds slot (some index)) := by
  intro s hs
  obtain ⟨hstart, hstop⟩ := span?_eq_some_iff.mp hs
  rw [Array.getElem?_setIfInBounds_ne hslot] at hstart
  by_cases hlast : slot = 2 * group + 1
  · subst hlast
    rw [Array.getElem?_setIfInBounds_self] at hstop
    have hstop : index = s.stop := by
      split at hstop
      · exact Option.some.inj (Option.some.inj hstop)
      · simp at hstop
    exact hstop ▸ hwithin s.start (Array.mem_of_getElem? hstart)
  · rw [Array.getElem?_setIfInBounds_ne hlast] at hstop
    exact h hlast s (span?_eq_some_iff.mpr ⟨hstart, hstop⟩)

/-- Where a group is not open, a thread has noted its end after its start. -/
theorem Reaches.ordered {e : Expr} {slotCount index : Nat} {t : Thread}
    (h : Reaches e.program slotCount index t) {group : Nat}
    (hdepth : depth group e.program.toList t.next = 0) : Ordered group t.slots := by
  induction h with
  | start index =>
    intro s hs
    have hstart := Array.mem_of_getElem? (span?_eq_some_iff.mp hs).1
    simp at hstart
  | @step index t u ht hstep ih =>
    cases hstep with
    | jump hinstr ha => exact ih ((depth_program_target hinstr ha).symm.trans hdepth)
    | look hinstr => exact ih (by simpa [depth_program_succ hinstr, Instr.opening] using hdepth)
    | chars hinstr => exact ih (by simpa [depth_program_succ hinstr, Instr.opening] using hdepth)
    | @save slot hinstr =>
      have hnonneg := depth_program_nonneg group e t.next
      have hopening := depth_program_succ (g := group) hinstr
      rw [hdepth, Instr.opening] at hopening
      -- a place where the group has just been opened is none where it is not open
      have hslot : slot ≠ 2 * group := by
        rintro rfl
        rw [if_pos rfl] at hopening
        omega
      rw [if_neg hslot] at hopening
      refine ordered_save ht.within hslot fun hlast => ih ?_
      rw [if_neg hlast, add_zero] at hopening
      exact hopening.symm
  | later _ ih => exact ih hdepth

/-- A part of a text of `n` characters. -/
structure SpanWithin (n : Nat) (s : Span) : Prop where
  start_le_stop : s.start ≤ s.stop
  stop_le : s.stop ≤ n

theorem spanWithin_of_found {e : Expr} {slotCount n : Nat} {slots : Slots}
    (h : Found e.program slotCount n slots) {group : Nat} {s : Span}
    (hs : span? slots group = some s) : SpanWithin n s := by
  obtain ⟨t, ht, haccept, rfl⟩ := h
  refine ⟨ht.ordered (depth_program_accept haccept) s hs, ?_⟩
  exact ht.within s.stop (Array.mem_of_getElem? (span?_eq_some_iff.mp hs).2)

theorem exists_program_of_ofText? {source : String} {p : Pattern} (h : ofText? source = some p) :
    ∃ e : Expr, p.program = e.program := by
  simp only [ofText?, Option.bind_eq_bind, Option.bind_eq_some_iff] at h
  obtain ⟨tree, -, ⟨e, flags⟩, -, hp⟩ := h
  refine ⟨e, ?_⟩
  split at hp
  · obtain rfl := Option.some.inj hp
    rfl
  · simp at hp

/-- What a pattern has found, as a whole and in its groups, are parts of the text. There is a part
or none for each of its groups. -/
theorem find?_within {source : String} {p : Pattern} (hp : ofText? source = some p)
    {text : List Char} {m : Match} (h : p.find? text = some m) :
    SpanWithin text.length m.whole ∧ (∀ s, some s ∈ m.groups → SpanWithin text.length s) ∧
      m.groups.length = p.groupCount := by
  obtain ⟨e, he⟩ := exists_program_of_ofText? hp
  simp only [find?, Option.bind_eq_bind, Option.bind_eq_some_iff, he] at h
  obtain ⟨slots, hsearch, whole, hwhole, hm⟩ := h
  have hfound := found_search (by simp) (by simp) slots hsearch
  rw [Nat.zero_add] at hfound
  obtain rfl : ⟨whole, (List.range p.groupCount).map fun i => span? slots (i + 1)⟩ = m :=
    Option.some.inj hm
  refine ⟨spanWithin_of_found hfound hwhole, ?_, by simp⟩
  intro s hs
  obtain ⟨i, -, hi⟩ := List.mem_map.mp hs
  exact spanWithin_of_found hfound hi

end Pattern

end CalendarRelay
