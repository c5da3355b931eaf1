import Mathlib
import CalendarRelay.Calendar.Folding

namespace CalendarRelay.Folding

def isIndent (c : Char) : Bool := c == ' ' || c == '\t'

/-- Whether a text at the start of a physical line goes on with the line before. -/
def continues : List Char → Bool
  | c :: _ => isIndent c
  | [] => false

def isLineEnd (c : Char) : Bool := c == '\r' || c == '\n'

/-- A text that begins a line of its own, and does not go on with the one before. -/
def IsLine (line : List Char) : Prop :=
  ∃ c cs, line = c :: cs ∧ isLineEnd c = false ∧ isIndent c = false

theorem IsLine.continues {line : List Char} (h : IsLine line) : continues line = false := by
  obtain ⟨c, cs, rfl, -, hc⟩ := h
  exact hc

/-- The text of content lines that are not folded. -/
def unfolded (lines : List (List Char)) : List Char := lines.flatMap (· ++ ['\r', '\n'])

@[simp] theorem unfolded_nil : unfolded [] = [] := rfl

@[simp] theorem unfolded_cons (line : List Char) (lines : List (List Char)) :
    unfolded (line :: lines) = line ++ '\r' :: '\n' :: unfolded lines := by
  simp [unfolded]

@[simp] theorem unfolded_append (a b : List (List Char)) :
    unfolded (a ++ b) = unfolded a ++ unfolded b := List.flatMap_append

section Joining

/-- What joining physical lines may leave of a content line: the line itself, or the line without
some of the line ends that have a blank after them, and without those blanks. -/
inductive JoinsTo : List Char → List Char → Prop
  | nil : JoinsTo [] []
  | keep {a b : List Char} (c : Char) (h : JoinsTo a b) : JoinsTo (c :: a) (c :: b)
  | drop {a b : List Char} {c : Char} (hc : isIndent c = true) (h : JoinsTo a b) :
    JoinsTo ('\n' :: c :: a) b
  | dropReturn {a b : List Char} {c : Char} (hc : isIndent c = true) (h : JoinsTo a b) :
    JoinsTo ('\r' :: '\n' :: c :: a) b

/-- No line feed with a blank after it, so that nothing looks like a cut. -/
def FoldFree (line : List Char) : Prop := line.IsChain fun a b => ¬(a = '\n' ∧ isIndent b = true)

/-- No line feed directly after a carriage return, so that nothing looks like the end of a content
line. -/
def BreakFree (line : List Char) : Prop := line.IsChain fun a b => ¬(a = '\r' ∧ b = '\n')

instance (line : List Char) : Decidable (FoldFree line) :=
  inferInstanceAs (Decidable (line.IsChain _))

instance (line : List Char) : Decidable (BreakFree line) :=
  inferInstanceAs (Decidable (line.IsChain _))

theorem foldFree_of_not_mem {line : List Char} (h : '\n' ∉ line) : FoldFree line := by
  have hfree : ∀ a ∈ line, ∀ b ∈ line, ¬(a = '\n' ∧ isIndent b = true) :=
    fun _ ha _ _ hab => h (hab.1 ▸ ha)
  exact (List.pairwise_of_forall_mem_list hfree).isChain

theorem breakFree_of_not_mem {line : List Char} (h : '\n' ∉ line) : BreakFree line := by
  have hfree : ∀ a ∈ line, ∀ b ∈ line, ¬(a = '\r' ∧ b = '\n') :=
    fun _ _ _ hb hab => h (hab.2 ▸ hb)
  exact (List.pairwise_of_forall_mem_list hfree).isChain

theorem JoinsTo.eq_of_foldFree {a b : List Char} (h : JoinsTo a b) (ha : FoldFree a) : b = a := by
  induction h with
  | nil => rfl
  | keep c _ ih => rw [ih ha.tail]
  | drop hc _ _ => exact absurd ⟨rfl, hc⟩ (List.isChain_cons_cons.mp ha).1
  | dropReturn hc _ _ => exact absurd ⟨rfl, hc⟩ (List.isChain_cons_cons.mp ha.tail).1

/-- A character that ends no line is kept. -/
theorem JoinsTo.cons_inv {a b : List Char} {c : Char} (hc : isLineEnd c = false)
    (h : JoinsTo (c :: a) b) : ∃ b', b = c :: b' ∧ JoinsTo a b' := by
  cases h with
  | keep _ h => exact ⟨_, rfl, h⟩
  | drop _ _ => simp [isLineEnd] at hc
  | dropReturn _ _ => simp [isLineEnd] at hc

/-- Joining works on each side of the start of a line or of any other visible character. -/
theorem JoinsTo.append_inv {a b c : List Char} (hb : IsLine b) (h : JoinsTo (a ++ b) c) :
    ∃ a' b', c = a' ++ b' ∧ JoinsTo a a' ∧ JoinsTo b b' := by
  obtain ⟨d, b, rfl, hend, hblank⟩ := hb
  have hn : d ≠ '\n' := by rintro rfl; simp [isLineEnd] at hend
  generalize hx : a ++ d :: b = x at h
  induction h generalizing a with
  | nil => simp at hx
  | keep e h ih =>
    cases a with
    | nil =>
      obtain ⟨rfl, rfl⟩ : d = e ∧ b = _ := by simpa using hx
      exact ⟨[], _, rfl, .nil, .keep d h⟩
    | cons e' a =>
      simp only [List.cons_append, List.cons.injEq] at hx
      obtain ⟨a', b', rfl, ha, hb⟩ := ih hx.2
      exact ⟨e :: a', b', rfl, hx.1 ▸ .keep e' ha, hb⟩
  | drop he h ih =>
    match a, hx with
    | [], hx => simp [hn] at hx
    | [_], hx => simp_all
    | _ :: _ :: a, hx =>
      simp only [List.cons_append, List.cons.injEq] at hx
      obtain ⟨rfl, rfl, htail⟩ := hx
      obtain ⟨a', b', rfl, ha, hb⟩ := ih htail
      exact ⟨a', b', rfl, .drop he ha, hb⟩
  | dropReturn he h ih =>
    match a, hx with
    | [], hx =>
      simp at hx
      simp [hx, isLineEnd] at hend
    | [_], hx => simp [hn] at hx
    | [_, _], hx => simp_all
    | _ :: _ :: _ :: a, hx =>
      simp only [List.cons_append, List.cons.injEq] at hx
      obtain ⟨rfl, rfl, rfl, htail⟩ := hx
      obtain ⟨a', b', rfl, ha, hb⟩ := ih htail
      exact ⟨a', b', rfl, .dropReturn he ha, hb⟩

theorem JoinsTo.mem_of_mem {a b : List Char} (h : JoinsTo a b) {c : Char} (hc : c ∈ b) : c ∈ a := by
  induction h with
  | nil => exact hc
  | keep d _ ih =>
    rcases List.mem_cons.mp hc with rfl | hc
    · simp
    · simp [ih hc]
  | drop _ _ ih => simp [ih hc]
  | dropReturn _ _ ih => simp [ih hc]

/-- Only line ends and blanks get lost. -/
theorem JoinsTo.mem_of_visible {a b : List Char} (h : JoinsTo a b) {c : Char}
    (hend : isLineEnd c = false) (hblank : isIndent c = false) (hc : c ∈ a) : c ∈ b := by
  have hr : c ≠ '\r' := by rintro rfl; simp [isLineEnd] at hend
  have hn : c ≠ '\n' := by rintro rfl; simp [isLineEnd] at hend
  induction h with
  | nil => exact hc
  | keep d _ ih =>
    rcases List.mem_cons.mp hc with rfl | hc
    · simp
    · simp [ih hc]
  | @drop _ _ e he _ ih =>
    have hne : c ≠ e := by rintro rfl; simp [he] at hblank
    exact ih (by simpa [hn, hne] using hc)
  | @dropReturn _ _ e he _ ih =>
    have hne : c ≠ e := by rintro rfl; simp [he] at hblank
    exact ih (by simpa [hr, hn, hne] using hc)

/-- Joining brings no end of a line about. -/
theorem JoinsTo.breakFree {a b : List Char} (h : JoinsTo a b) (ha : BreakFree a) : BreakFree b := by
  induction h with
  | nil => exact ha
  | keep c h ih =>
    refine List.isChain_cons.mpr ⟨?_, ih ha.tail⟩
    rintro d hd ⟨rfl, rfl⟩
    -- a line feed that comes to stand after the carriage return has been there before
    cases h with
    | nil => simp at hd
    | keep e _ =>
      obtain rfl : e = '\n' := by simpa using hd
      exact absurd ⟨rfl, rfl⟩ (List.isChain_cons_cons.mp ha).1
    | drop _ _ => exact absurd ⟨rfl, rfl⟩ (List.isChain_cons_cons.mp ha).1
    | dropReturn _ _ => exact absurd ⟨rfl, rfl⟩ (List.isChain_cons_cons.mp ha.tail).1
  | drop _ _ ih => exact ih ha.tail.tail
  | dropReturn _ _ ih => exact ih ha.tail.tail.tail

end Joining

theorem unfold_cons {c : Char} (hc : isLineEnd c = false) (cs : List Char) :
    unfold (c :: cs) = c :: unfold cs := by
  have hne : c ≠ '\r' ∧ c ≠ '\n' := by simpa [isLineEnd] using hc
  rw [unfold] <;> simp_all

theorem isIndent_iff {c : Char} : isIndent c = true ↔ c = ' ' ∨ c = '\t' := by simp [isIndent]

theorem unfold_feed_blank {c : Char} (hc : isIndent c = true) (cs : List Char) :
    unfold ('\n' :: c :: cs) = unfold cs := by
  rcases isIndent_iff.mp hc with rfl | rfl <;> rw [unfold]

theorem unfold_return_feed_blank {c : Char} (hc : isIndent c = true) (cs : List Char) :
    unfold ('\r' :: '\n' :: c :: cs) = unfold cs := by
  rcases isIndent_iff.mp hc with rfl | rfl <;> rw [unfold]

theorem unfold_feed {cs : List Char} (h : continues cs = false) :
    unfold ('\n' :: cs) = '\n' :: unfold cs := by
  have hs : ∀ ds, cs ≠ ' ' :: ds := by rintro ds rfl; simp [continues, isIndent] at h
  have ht : ∀ ds, cs ≠ '\t' :: ds := by rintro ds rfl; simp [continues, isIndent] at h
  rw [unfold] <;> simp_all

theorem unfold_return {cs : List Char} (h : ∀ ds, cs = '\n' :: ds → continues ds = false) :
    unfold ('\r' :: cs) = '\r' :: unfold cs := by
  have hs : ∀ ds, cs ≠ '\n' :: ' ' :: ds := by
    rintro ds rfl
    simpa [continues, isIndent] using h _ rfl
  have ht : ∀ ds, cs ≠ '\n' :: '\t' :: ds := by
    rintro ds rfl
    simpa [continues, isIndent] using h _ rfl
  rw [unfold] <;> simp_all

theorem unfold_lineEnd {cs : List Char} (h : continues cs = false) :
    unfold ('\r' :: '\n' :: cs) = '\r' :: '\n' :: unfold cs := by
  rw [unfold_return (by rintro ds hds; simp_all), unfold_feed h]

/-- A character is written where it stands, or after a cut. -/
theorem fold_cons (room : Nat) (c : Char) (cs : List Char) : ∃ room',
    fold room (c :: cs) = c :: fold room' cs ∨
      fold room (c :: cs) = '\r' :: '\n' :: ' ' :: c :: fold room' cs := by
  rw [fold]
  split
  · exact ⟨_, .inl rfl⟩
  · exact ⟨_, .inr rfl⟩

/-- What is written for the rest of a line begins with a blank only if the rest does. -/
theorem fold_blank_cases (room : Nat) (line : List Char) :
    (∀ rest, continues (fold room line ++ rest) = false) ∨
      ∃ room' c cs, isIndent c = true ∧ line = c :: cs ∧ fold room line = c :: fold room' cs := by
  cases line with
  | nil => exact .inl fun _ => rfl
  | cons c cs =>
    obtain ⟨room', hfold | hfold⟩ := fold_cons room c cs
    · cases hc : isIndent c with
      | false => exact .inl fun _ => by rw [hfold]; exact hc
      | true => exact .inr ⟨room', c, cs, hc, rfl, hfold⟩
    · exact .inl fun _ => by rw [hfold]; rfl

theorem fold_feed_blank_cases (room : Nat) (line : List Char) :
    (∀ rest ds, fold room line ++ rest = '\n' :: ds → continues ds = false) ∨
      ∃ room' c cs, isIndent c = true ∧ line = '\n' :: c :: cs ∧
        fold room line = '\n' :: c :: fold room' cs := by
  cases line with
  | nil => exact .inl fun _ _ h => by simp [fold] at h
  | cons a cs =>
    obtain ⟨room', hfold | hfold⟩ := fold_cons room a cs
    · by_cases ha : a = '\n'
      · rcases fold_blank_cases room' cs with hcs | ⟨room'', c, cs, hc, rfl, hcs⟩
        · refine .inl fun rest ds h => ?_
          obtain ⟨-, rfl⟩ : a = '\n' ∧ fold room' cs ++ rest = ds := by simpa [hfold] using h
          exact hcs rest
        · exact .inr ⟨room'', c, cs, hc, by rw [ha], by rw [hfold, ha, hcs]⟩
      · exact .inl fun _ _ h => by simp [hfold, ha] at h
    · exact .inl fun _ _ h => by simp [hfold] at h

/-- Joining the physical lines of a content line gives `joined`, whatever comes after them. -/
structure FoundAs (room : Nat) (line joined : List Char) : Prop where
  joins : JoinsTo line joined
  unfold_fold : ∀ rest, continues rest = false →
    unfold (fold room line ++ rest) = joined ++ '\r' :: '\n' :: unfold rest

/-- Cuts leave no trace once the lines are joined, wherever they fall. -/
theorem exists_foundAs (room : Nat) (line : List Char) : ∃ joined, FoundAs room line joined := by
  match line with
  | [] => exact ⟨[], .nil, fun rest hrest => unfold_lineEnd hrest⟩
  | c :: cs =>
    -- a cut is taken out before the rest of the line is looked at
    obtain ⟨room', hstep⟩ : ∃ room', ∀ rest,
        unfold (fold room (c :: cs) ++ rest) = unfold (c :: (fold room' cs ++ rest)) := by
      obtain ⟨room', hfold | hfold⟩ := fold_cons room c cs
      · exact ⟨room', fun rest => by rw [hfold, List.cons_append]⟩
      · exact ⟨room', fun rest => by
          rw [hfold]
          exact unfold_return_feed_blank (by decide) _⟩
    -- unless the character is the first of what looks like a cut, it is kept
    have hkeep (h : ∀ rest, unfold (c :: (fold room' cs ++ rest)) =
        c :: unfold (fold room' cs ++ rest)) : ∃ joined, FoundAs room (c :: cs) joined := by
      obtain ⟨joined, hjoins, hcs⟩ := exists_foundAs room' cs
      refine ⟨c :: joined, .keep c hjoins, fun rest hrest => ?_⟩
      rw [hstep, h rest, hcs rest hrest, List.cons_append]
    cases hend : isLineEnd c with
    | false => exact hkeep fun rest => unfold_cons hend _
    | true =>
      rcases (by simpa [isLineEnd] using hend : c = '\r' ∨ c = '\n') with rfl | rfl
      · rcases fold_feed_blank_cases room' cs with hfeed | ⟨room'', b, ds, hb, rfl, hfold⟩
        · exact hkeep fun rest => unfold_return (hfeed rest)
        · obtain ⟨joined, hjoins, hds⟩ := exists_foundAs room'' ds
          refine ⟨joined, .dropReturn hb hjoins, fun rest hrest => ?_⟩
          rw [hstep, hfold]
          exact (unfold_return_feed_blank hb _).trans (hds rest hrest)
      · rcases fold_blank_cases room' cs with hblank | ⟨room'', b, ds, hb, rfl, hfold⟩
        · exact hkeep fun rest => unfold_feed (hblank rest)
        · obtain ⟨joined, hjoins, hds⟩ := exists_foundAs room'' ds
          refine ⟨joined, .drop hb hjoins, fun rest hrest => ?_⟩
          rw [hstep, hfold]
          exact (unfold_feed_blank hb _).trans (hds rest hrest)
termination_by line.length

/-- A content line as it is found when the physical lines it was written in are joined. -/
def rejoin (line : List Char) : List Char := (unfold (foldLine line)).dropLast.dropLast

theorem foundAs_rejoin (line : List Char) : FoundAs width line (rejoin line) := by
  obtain ⟨joined, hjoined⟩ := exists_foundAs width line
  have hline : unfold (foldLine line) = joined ++ ['\r', '\n'] := by
    simpa [foldLine, unfold] using hjoined.unfold_fold [] rfl
  have hrejoin : rejoin line = joined := by
    rw [rejoin, hline]
    simp [List.dropLast_append_of_ne_nil]
  rwa [hrejoin]

theorem rejoin_eq_self {line : List Char} (h : FoldFree line) : rejoin line = line :=
  (foundAs_rejoin line).joins.eq_of_foldFree h

theorem IsLine.rejoin {line : List Char} (h : IsLine line) : IsLine (rejoin line) := by
  have hjoins := (foundAs_rejoin line).joins
  obtain ⟨c, cs, rfl, hc⟩ := h
  obtain ⟨cs', hcs, -⟩ := hjoins.cons_inv hc.1
  exact ⟨c, cs', hcs, hc⟩

/-- The first character of a line is never moved to the next one. -/
theorem continues_foldLine (line rest : List Char) :
    continues (foldLine line ++ rest) = continues line := by
  cases line with
  | nil => rfl
  | cons c cs =>
    have hc : c.utf8Size ≤ width := by
      have := c.utf8Size_le_four
      unfold width
      omega
    simp [foldLine, fold, hc, continues]

/-- Joining gives back the content lines that were folded, each of them as it is found. -/
theorem unfold_flatMap_foldLine {lines : List (List Char)} (h : ∀ l ∈ lines, IsLine l) :
    unfold (lines.flatMap foldLine) = unfolded (lines.map rejoin) := by
  induction lines with
  | nil => rfl
  | cons line lines ih =>
    have hrest : ∀ l ∈ lines, IsLine l := fun l hl => h l (by simp [hl])
    have hstart : continues (lines.flatMap foldLine) = false := by
      cases lines with
      | nil => rfl
      | cons next lines =>
        rw [List.flatMap_cons, continues_foldLine]
        exact (hrest next (by simp)).continues
    have hline := (foundAs_rejoin line).unfold_fold _ hstart
    rw [List.flatMap_cons, foldLine, hline, ih hrest, List.map_cons, unfolded_cons]

end CalendarRelay.Folding
