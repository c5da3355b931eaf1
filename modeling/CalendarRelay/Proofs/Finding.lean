import CalendarRelay.Proofs.Spans
import CalendarRelay.Rule.Replacement

namespace CalendarRelay.Rule.Replacement

/-- The part of a text that a span leads to; where there is no span there is no part. -/
inductive Covers (text : List Char) : Option Span → Option (List Char) → Prop
  | part (before part after : List Char) (h : text = before ++ part ++ after) :
    Covers text (some ⟨before.length, before.length + part.length⟩) (some part)
  | absent : Covers text none none

/-- What a pattern has found in a text: what is before the match, the match, what is after it, and
of each group its name and what it has matched, if it has either. -/
structure Finding where
  before : List Char
  matched : List Char
  after : List Char
  groups : List (Option String × Option (List Char))

namespace Finding

/-- A finding tells of a match of a pattern in a text. -/
structure Tells (f : Finding) (p : Pattern) (m : Match) (text : List Char) : Prop where
  text_eq : text = f.before ++ f.matched ++ f.after
  whole : m.whole = ⟨f.before.length, f.before.length + f.matched.length⟩
  names : f.groups.map Prod.fst = p.groups
  parts : List.Forall₂ (Covers text) m.groups (f.groups.map Prod.snd)

/-- There is a group of this number. -/
def HasGroup (f : Finding) (n : Nat) : Prop := 1 ≤ n ∧ n ≤ f.groups.length

/-- Some group has a name. -/
def HasNames (f : Finding) : Prop := ∃ group ∈ f.groups, group.1.isSome = true

end Finding

section Covers

variable {text : List Char}

theorem Covers.slice_eq {span : Span} {part : Option (List Char)}
    (h : Covers text (some span) part) : part = some (span.slice text) := by
  cases h with
  | part before part after h => simp [h, Span.slice, List.take_append]

/-- A text is cut into three at a span of it. -/
theorem exists_append_of_spanWithin {span : Span} (h : Pattern.SpanWithin text.length span) :
    ∃ before part after, text = before ++ part ++ after ∧
      span = ⟨before.length, before.length + part.length⟩ := by
  obtain ⟨start, stop⟩ := span
  have hstart : start ≤ stop := h.start_le_stop
  have hstop : stop ≤ text.length := h.stop_le
  refine ⟨text.take start, (text.take stop).drop start, text.drop stop, ?_, ?_⟩
  · have htake : text.take start = (text.take stop).take start := by
      rw [List.take_take, Nat.min_eq_left hstart]
    rw [htake, List.take_append_drop, List.take_append_drop]
  · simp only [List.length_take, List.length_drop, Span.mk.injEq]
    omega

theorem exists_covers {span : Option Span}
    (h : ∀ s ∈ span, Pattern.SpanWithin text.length s) : ∃ part, Covers text span part := by
  cases span with
  | none => exact ⟨none, .absent⟩
  | some s =>
    obtain ⟨before, part, after, htext, rfl⟩ := exists_append_of_spanWithin (h s rfl)
    exact ⟨some part, .part before part after htext⟩

theorem exists_forall₂_covers {spans : List (Option Span)}
    (h : ∀ s, some s ∈ spans → Pattern.SpanWithin text.length s) :
    ∃ parts, List.Forall₂ (Covers text) spans parts := by
  induction spans with
  | nil => exact ⟨[], .nil⟩
  | cons span spans ih =>
    obtain ⟨part, hpart⟩ := exists_covers fun s (hs : s ∈ span) =>
      h s (Option.mem_def.mp hs ▸ List.mem_cons_self)
    obtain ⟨parts, hparts⟩ := ih fun s hs => h s (List.mem_cons_of_mem _ hs)
    exact ⟨part :: parts, .cons hpart hparts⟩

end Covers

namespace Finding

variable {f : Finding} {p : Pattern} {m : Match} {text : List Char}

/-- There is something to be told of every match. -/
theorem exists_tells {source : String} (hp : Pattern.ofText? source = some p)
    (h : p.find? text = some m) : ∃ f : Finding, f.Tells p m text := by
  obtain ⟨hwhole, hgroups, hlength⟩ := Pattern.find?_within hp h
  obtain ⟨parts, hparts⟩ := exists_forall₂_covers hgroups
  obtain ⟨before, matched, after, htext, hspan⟩ := exists_append_of_spanWithin hwhole
  have hcount : p.groups.length = parts.length := hlength.symm.trans hparts.length_eq
  refine ⟨⟨before, matched, after, p.groups.zip parts⟩, htext, hspan, ?_, ?_⟩
  · exact List.map_fst_zip hcount.le
  · rwa [List.map_snd_zip hcount.ge]

theorem Tells.take_start (h : f.Tells p m text) : text.take m.whole.start = f.before := by
  rw [h.whole, h.text_eq, List.append_assoc, List.take_left]

theorem Tells.drop_stop (h : f.Tells p m text) : text.drop m.whole.stop = f.after := by
  rw [h.whole, h.text_eq, ← List.length_append, List.drop_left]

theorem Tells.slice_whole (h : f.Tells p m text) : m.whole.slice text = f.matched := by
  rw [h.whole]
  exact (Option.some.inj (Covers.part _ _ _ h.text_eq).slice_eq).symm

theorem Tells.groupCount_eq (h : f.Tells p m text) : p.groupCount = f.groups.length := by
  rw [Pattern.groupCount, ← h.names, List.length_map]

theorem Tells.any_isSome_iff (h : f.Tells p m text) :
    p.groups.any Option.isSome = true ↔ f.HasNames := by
  rw [← h.names, List.any_map, List.any_eq_true]
  rfl

theorem Tells.covers (h : f.Tells p m text) {k : Nat}
    {group : Option String × Option (List Char)} (hgroup : f.groups[k]? = some group) :
    ∃ span, m.groups[k]? = some span ∧ Covers text span group.2 := by
  have hparts : (f.groups.map Prod.snd)[k]? = some group.2 := by
    rw [List.getElem?_map, hgroup]
    rfl
  obtain ⟨hk, hpart⟩ := List.getElem?_eq_some_iff.mp hparts
  have hspan : k < m.groups.length := h.parts.length_eq ▸ hk
  have hcovers := h.parts.get hspan hk
  rw [List.get_eq_getElem, List.get_eq_getElem, hpart] at hcovers
  exact ⟨_, List.getElem?_eq_getElem hspan, hcovers⟩

theorem Tells.groupText_eq (h : f.Tells p m text) {k : Nat}
    {group : Option String × Option (List Char)} (hgroup : f.groups[k]? = some group) :
    groupText m text (k + 1) = group.2.getD [] := by
  obtain ⟨span, hspan, hcovers⟩ := h.covers hgroup
  rw [groupText, Nat.add_sub_cancel, hspan]
  cases span with
  | none =>
    cases hpart : group.2 with
    | none => rfl
    | some part =>
      rw [hpart] at hcovers
      nomatch hcovers
  | some s => rw [hcovers.slice_eq, Option.getD_some]

/-- A name stands for the first group that has it. -/
theorem Tells.groupNamed?_of_first (h : f.Tells p m text) {name : String}
    {earlier later : List (Option String × Option (List Char))} {part : Option (List Char)}
    (hgroups : f.groups = earlier ++ (some name, part) :: later)
    (hfirst : ∀ group ∈ earlier, group.1 ≠ some name) :
    p.groupNamed? name = some (earlier.length + 1) := by
  have hnone : (earlier.map Prod.fst).findIdx? (· == some name) = none := by
    rw [List.findIdx?_eq_none_iff, List.forall_mem_map]
    simpa using hfirst
  rw [Pattern.groupNamed?, ← h.names, hgroups, List.map_append, List.findIdx?_append, hnone,
    List.map_cons, List.findIdx?_cons]
  simp

theorem Tells.exists_of_groupNamed? (h : f.Tells p m text) {name : String} {n : Nat}
    (hname : p.groupNamed? name = some n) : ∃ earlier part later,
      f.groups = earlier ++ (some name, part) :: later ∧
        (∀ group ∈ earlier, group.1 ≠ some name) ∧ earlier.length + 1 = n := by
  rw [Pattern.groupNamed?, ← h.names, Option.map_eq_some_iff] at hname
  obtain ⟨k, hk, rfl⟩ := hname
  rw [List.findIdx?_map, List.findIdx?_eq_some_iff_getElem] at hk
  obtain ⟨hlt, hname, hfirst⟩ := hk
  have hname : f.groups[k].1 = some name := by simpa using hname
  have hgroup : (some name, f.groups[k].2) = f.groups[k] := Prod.ext hname.symm rfl
  refine ⟨f.groups.take k, f.groups[k].2, f.groups.drop (k + 1), ?_, ?_, ?_⟩
  · rw [hgroup, List.cons_getElem_drop_succ, List.take_append_drop]
  · intro group hmem
    obtain ⟨j, hj, rfl⟩ := List.mem_take_iff_getElem.mp hmem
    simpa using hfirst j (Nat.lt_min.mp hj).1
  · rw [List.length_take, Nat.min_eq_left hlt.le]

theorem Tells.groupNamed?_eq_none_iff (h : f.Tells p m text) {name : String} :
    p.groupNamed? name = none ↔ ∀ group ∈ f.groups, group.1 ≠ some name := by
  rw [Pattern.groupNamed?, ← h.names, Option.map_eq_none_iff, List.findIdx?_eq_none_iff,
    List.forall_mem_map]
  simp

end Finding

end CalendarRelay.Rule.Replacement
