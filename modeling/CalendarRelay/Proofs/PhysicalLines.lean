import CalendarRelay.Proofs.Body

namespace CalendarRelay.Folding

/-- The bytes of a text. -/
def octets (cs : List Char) : List UInt8 := cs.flatMap String.utf8EncodeChar

@[simp] theorem octets_nil : octets [] = [] := rfl

@[simp] theorem octets_cons (c : Char) (cs : List Char) :
    octets (c :: cs) = String.utf8EncodeChar c ++ octets cs := List.flatMap_cons

@[simp] theorem octets_append (a b : List Char) : octets (a ++ b) = octets a ++ octets b :=
  List.flatMap_append

theorem length_octets_cons (c : Char) (cs : List Char) :
    (octets (c :: cs)).length = c.utf8Size + (octets cs).length := by
  rw [octets_cons, List.length_append, String.length_utf8EncodeChar]

/-- Whether a character begins at a place in a text of bytes, or the text ends there. -/
def IsBoundary (bytes : List UInt8) (i : Nat) : Prop :=
  i = 0 ∨ i = bytes.length ∨ ∃ b ∈ bytes[i]?, b.IsUTF8FirstByte

instance (bytes : List UInt8) (i : Nat) : Decidable (IsBoundary bytes i) :=
  inferInstanceAs (Decidable (_ ∨ _ ∨ _))

/-- The last boundary that is not after `cut`, searched backwards. -/
def lastBoundary (bytes : List UInt8) : (cut : Nat) → Nat
  | 0 => 0
  | cut + 1 => if IsBoundary bytes (cut + 1) then cut + 1 else lastBoundary bytes cut

theorem lastBoundary_eq {bytes : List UInt8} {k cut : Nat} (hk : IsBoundary bytes k)
    (hle : k ≤ cut) (hnone : ∀ i, k < i → i ≤ cut → ¬IsBoundary bytes i) :
    lastBoundary bytes cut = k := by
  induction cut with
  | zero => exact (Nat.le_zero.mp hle).symm
  | succ cut ih =>
    rw [lastBoundary]
    rcases Nat.eq_or_lt_of_le hle with rfl | hlt
    · rw [if_pos hk]
    · rw [if_neg (hnone _ hlt le_rfl)]
      exact ih (Nat.lt_succ_iff.mp hlt) fun i hi hcut => hnone i hi (Nat.le_succ_of_le hcut)

theorem isBoundary_octets (a b : List Char) : IsBoundary (octets (a ++ b)) (octets a).length := by
  cases b with
  | nil => exact .inr (.inl (by simp))
  | cons c b =>
    have hpos : 0 < (String.utf8EncodeChar c).length := by
      rw [String.length_utf8EncodeChar]
      exact c.utf8Size_pos
    refine .inr (.inr ⟨(String.utf8EncodeChar c)[0], ?_, ?_⟩)
    · rw [octets_append, octets_cons, List.getElem?_append_right le_rfl, Nat.sub_self,
        List.getElem?_append_left hpos]
      exact List.getElem?_eq_getElem hpos
    · exact UInt8.isUTF8FirstByte_getElem_utf8EncodeChar.mpr rfl

/-- No character begins within another one. -/
theorem not_isBoundary_octets {a b : List Char} {c : Char} {i : Nat}
    (hlt : (octets a).length < i) (hgt : i < (octets a).length + c.utf8Size) :
    ¬IsBoundary (octets (a ++ c :: b)) i := by
  rw [← String.length_utf8EncodeChar] at hgt
  rintro (rfl | hend | ⟨byte, hbyte, hfirst⟩)
  · simp at hlt
  · simp only [octets_append, octets_cons, List.length_append] at hend
    omega
  · have hi : i - (octets a).length < (String.utf8EncodeChar c).length := by omega
    have hget : (octets (a ++ c :: b))[i]? =
        some (String.utf8EncodeChar c)[i - (octets a).length] := by
      rw [octets_append, octets_cons, List.getElem?_append_right hlt.le,
        List.getElem?_append_left hi, List.getElem?_eq_getElem hi]
    rw [hget, Option.mem_some_iff] at hbyte
    rw [← hbyte, UInt8.isUTF8FirstByte_getElem_utf8EncodeChar] at hfirst
    omega

section Cutting

/-- How far the bytes of a line have been written, and how many of the rest may come next. -/
structure Cutting where
  written : List UInt8 := []
  rest : List UInt8
  limit : Nat := width

namespace Cutting

def ofLine (line : List Char) : Cutting := { rest := octets line }

/-- Where the rest is cut if it goes beyond the limit. -/
def cut (s : Cutting) : Nat := lastBoundary s.rest s.limit

/-- What one round leads to: the bytes up to the cut are written, then a line end and a blank, which
counts in the next line. -/
def next (s : Cutting) : Cutting where
  written := s.written ++ (s.rest.take s.cut ++ octets ['\r', '\n', ' '])
  rest := s.rest.drop s.cut
  limit := width - 1

/-- There is a round as long as the rest goes beyond the limit. -/
def Step (s t : Cutting) : Prop := s.limit < s.rest.length ∧ t = s.next

/-- The written bytes when nothing more is cut. -/
def output (s : Cutting) : List UInt8 := s.written ++ (s.rest ++ octets ['\r', '\n'])

/-- The rest of a line between two rounds: whole characters, which are folded as they would be in
the whole line. -/
structure Within (line : List Char) (s : Cutting) (todo : List Char) : Prop where
  suffix : todo <:+ line
  rest_eq : s.rest = octets todo
  limit_pos : 4 ≤ s.limit
  written_fold : s.written ++ octets (fold s.limit todo) = octets (foldLine line)

end Cutting

theorem fold_of_length_le {room : Nat} {cs : List Char} (h : (octets cs).length ≤ room) :
    fold room cs = cs ++ ['\r', '\n'] := by
  induction cs generalizing room with
  | nil => rfl
  | cons c cs ih =>
    rw [length_octets_cons] at h
    rw [fold, if_pos (by omega), ih (by omega), List.cons_append]

/-- A line that is too long goes up to the last character that has room. -/
theorem exists_fold_eq {room : Nat} {cs : List Char} (h : room < (octets cs).length) :
    ∃ a c b, cs = a ++ c :: b ∧ (octets a).length ≤ room ∧
      room < (octets a).length + c.utf8Size ∧
      fold room cs = a ++ '\r' :: '\n' :: ' ' :: fold (width - 1) (c :: b) := by
  induction cs generalizing room with
  | nil => simp at h
  | cons c cs ih =>
    rw [length_octets_cons] at h
    by_cases hroom : c.utf8Size ≤ room
    · have hrest : room - c.utf8Size < (octets cs).length := by omega
      obtain ⟨a, d, b, rfl, hle, hlt, hfold⟩ := ih hrest
      refine ⟨c :: a, d, b, rfl, ?_, ?_, ?_⟩
      · rw [length_octets_cons]
        omega
      · rw [length_octets_cons]
        omega
      · rw [fold, if_pos hroom, hfold, List.cons_append]
    · have hwidth : c.utf8Size ≤ width - 1 := c.utf8Size_le_four.trans (by decide)
      refine ⟨[], c, cs, rfl, by simp, by simpa using hroom, ?_⟩
      rw [fold, if_neg hroom, fold, if_pos hwidth]
      rfl

namespace Cutting

variable {line todo : List Char} {s t : Cutting}

/-- The cut comes before a character and after at least one other. -/
theorem Within.exists_cut (h : Within line s todo) (hlong : s.limit < s.rest.length) :
    ∃ a c b, todo = a ++ c :: b ∧ s.cut = (octets a).length ∧ 0 < s.cut ∧
      fold s.limit todo = a ++ '\r' :: '\n' :: ' ' :: fold (width - 1) (c :: b) := by
  rw [h.rest_eq] at hlong
  obtain ⟨a, c, b, rfl, hle, hlt, hfold⟩ := exists_fold_eq hlong
  have hcut : s.cut = (octets a).length := by
    rw [cut, h.rest_eq]
    refine lastBoundary_eq (isBoundary_octets a (c :: b)) hle ?_
    exact fun i hi hlimit => not_isBoundary_octets hi (by omega)
  -- the limit has room for any one character, so that the cut is not at the start
  have hpos : 0 < (octets a).length := by
    have hfour := c.utf8Size_le_four
    have hlimit := h.limit_pos
    omega
  exact ⟨a, c, b, rfl, hcut, hcut ▸ hpos, hfold⟩

theorem within_ofLine (line : List Char) : Within line (ofLine line) line where
  suffix := List.suffix_rfl
  rest_eq := rfl
  limit_pos := (by decide : 4 ≤ width)
  written_fold := rfl

theorem Within.next (h : Within line s todo) (hlong : s.limit < s.rest.length) :
    (∃ todo', Within line s.next todo') ∧ s.next.rest.length < s.rest.length := by
  obtain ⟨a, c, b, rfl, hcut, hpos, hfold⟩ := h.exists_cut hlong
  have htake : s.rest.take s.cut = octets a := by
    rw [h.rest_eq, hcut, octets_append, List.take_left]
  have hdrop : s.rest.drop s.cut = octets (c :: b) := by
    rw [h.rest_eq, hcut, octets_append, List.drop_left]
  refine ⟨⟨c :: b, (List.suffix_append a (c :: b)).trans h.suffix, hdrop, ?_, ?_⟩, ?_⟩
  · exact (by decide : 4 ≤ width - 1)
  · rw [← h.written_fold, hfold, Cutting.next, htake]
    simp
  · rw [Cutting.next, List.length_drop]
    omega

/-- Whatever round comes, the rest of a line is some of its last characters. -/
theorem exists_within (h : Relation.ReflTransGen Step (ofLine line) s) :
    ∃ todo, Within line s todo := by
  induction h with
  | refl => exact ⟨line, within_ofLine line⟩
  | tail _ hstep ih =>
    obtain ⟨todo, hwithin⟩ := ih
    exact hstep.2 ▸ (hwithin.next hstep.1).1

theorem Within.output_eq (h : Within line s todo) (hlast : s.rest.length ≤ s.limit) :
    s.output = octets (foldLine line) := by
  have hfold : fold s.limit todo = todo ++ ['\r', '\n'] :=
    fold_of_length_le (h.rest_eq ▸ hlast)
  rw [output, ← h.written_fold, hfold, h.rest_eq, octets_append]

/-- Every round leaves fewer bytes, so that the rounds end. -/
theorem Within.exists_last (h : Within line s todo) :
    ∃ last, Relation.ReflTransGen Step s last ∧ last.rest.length ≤ last.limit ∧
      last.output = octets (foldLine line) := by
  induction hn : s.rest.length using Nat.strong_induction_on generalizing s todo with
  | _ n ih =>
    by_cases hlong : s.limit < s.rest.length
    · obtain ⟨⟨todo', hwithin⟩, hless⟩ := h.next hlong
      obtain ⟨last, hsteps, hlast⟩ := ih _ (hn ▸ hless) hwithin rfl
      exact ⟨last, hsteps.head ⟨hlong, rfl⟩, hlast⟩
    · exact ⟨s, .refl, not_lt.mp hlong, h.output_eq (not_lt.mp hlong)⟩

end Cutting

end Cutting

section Lines

/-- A text of physical lines: each is followed by a line end, holds none, and has at most `width`
bytes. -/
def Fits (text : List Char) : Prop :=
  ∃ lines, text = unfolded lines ∧ ∀ l ∈ lines, BreakFree l ∧ (octets l).length ≤ width

theorem fits_nil : Fits [] := ⟨[], rfl, by simp⟩

theorem Fits.append {a b : List Char} (ha : Fits a) (hb : Fits b) : Fits (a ++ b) := by
  obtain ⟨as, rfl, ha⟩ := ha
  obtain ⟨bs, rfl, hb⟩ := hb
  refine ⟨as ++ bs, (unfolded_append as bs).symm, fun l hl => ?_⟩
  rcases List.mem_append.mp hl with hl | hl
  · exact ha l hl
  · exact hb l hl

/-- Line ends within a text cut it in lines that are no longer than the text. -/
theorem exists_breakFree (text : List Char) : ∃ first lines,
    text ++ ['\r', '\n'] = unfolded (first :: lines) ∧
      ∀ l ∈ first :: lines, BreakFree l ∧ (octets l).length ≤ (octets text).length := by
  induction text with
  | nil => exact ⟨[], [], rfl, by simp [BreakFree]⟩
  | cons c text ih =>
    obtain ⟨first, lines, htext, hlines⟩ := ih
    rw [List.forall_mem_cons] at hlines
    obtain ⟨⟨hfree, hsize⟩, hlines⟩ := hlines
    have hmore : ∀ l ∈ lines, BreakFree l ∧ (octets l).length ≤ (octets (c :: text)).length := by
      intro l hl
      rw [length_octets_cons]
      exact ⟨(hlines l hl).1, (hlines l hl).2.trans (Nat.le_add_left _ _)⟩
    by_cases hbreak : c = '\r' ∧ ∃ cs, first = '\n' :: cs
    · -- the carriage return ends a line together with the line feed that comes first
      obtain ⟨rfl, cs, rfl⟩ := hbreak
      refine ⟨[], cs :: lines, by simp [htext], ?_⟩
      rw [List.forall_mem_cons, List.forall_mem_cons]
      rw [length_octets_cons] at hsize
      refine ⟨⟨List.isChain_nil, by simp⟩, ⟨hfree.tail, ?_⟩, hmore⟩
      rw [length_octets_cons]
      omega
    · refine ⟨c :: first, lines, by simp [htext], ?_⟩
      rw [List.forall_mem_cons]
      refine ⟨⟨List.isChain_cons.mpr ⟨?_, hfree⟩, ?_⟩, hmore⟩
      · rintro d hd ⟨hc, rfl⟩
        obtain ⟨cs, hcs⟩ := List.head?_eq_some_iff.mp hd
        exact hbreak ⟨hc, cs, hcs⟩
      · rw [length_octets_cons, length_octets_cons]
        omega

theorem fits_of_length_le {text : List Char} (h : (octets text).length ≤ width) :
    Fits (text ++ ['\r', '\n']) := by
  obtain ⟨first, lines, htext, hlines⟩ := exists_breakFree text
  exact ⟨first :: lines, htext, fun l hl => ⟨(hlines l hl).1, (hlines l hl).2.trans h⟩⟩

/-- What is written before a folded line goes in its first physical line if there was room. -/
theorem fits_append_fold {before line : List Char} {room : Nat}
    (h : (octets before).length + room ≤ width) : Fits (before ++ fold room line) := by
  induction line generalizing before room with
  | nil => exact fits_of_length_le (Nat.le_of_add_right_le h)
  | cons c line ih =>
    have hfour := c.utf8Size_le_four
    rw [fold]
    split
    · have hbefore : (octets (before ++ [c])).length + (room - c.utf8Size) ≤ width := by
        rw [octets_append, List.length_append, length_octets_cons, octets_nil, List.length_nil]
        omega
      simpa using ih hbefore
    · have hblank : (octets [' ', c]).length + (width - 1 - c.utf8Size) ≤ width := by
        have hspace : ' '.utf8Size = 1 := rfl
        rw [length_octets_cons, length_octets_cons, octets_nil, List.length_nil, hspace, width]
        omega
      simpa using (fits_of_length_le (Nat.le_of_add_right_le h)).append (ih hblank)

theorem fits_foldLine (line : List Char) : Fits (foldLine line) := by
  have hroom : (octets []).length + width ≤ width := by simp
  exact fits_append_fold hroom

theorem fits_flatMap_foldLine (lines : List (List Char)) : Fits (lines.flatMap foldLine) := by
  induction lines with
  | nil => exact fits_nil
  | cons line lines ih => exact (fits_foldLine line).append ih

end Lines

/-- The text without the line ends that have a blank after them, and without those blanks. -/
def withoutCuts : List Char → List Char
  | '\r' :: '\n' :: ' ' :: cs => withoutCuts cs
  | c :: cs => c :: withoutCuts cs
  | [] => []

theorem withoutCuts_cons {c : Char} (hc : c ≠ '\r') (cs : List Char) :
    withoutCuts (c :: cs) = c :: withoutCuts cs := by
  rw [withoutCuts]
  simp_all

theorem withoutCuts_fold {line : List Char} (hr : '\r' ∉ line) (room : Nat) :
    withoutCuts (fold room line) = line ++ ['\r', '\n'] := by
  induction line generalizing room with
  | nil => rfl
  | cons c line ih =>
    simp only [List.mem_cons, not_or] at hr
    obtain ⟨room', hfold | hfold⟩ := fold_cons room c line
    · rw [hfold, withoutCuts_cons (Ne.symm hr.1), ih hr.2, List.cons_append]
    · rw [hfold, withoutCuts, withoutCuts_cons (Ne.symm hr.1), ih hr.2, List.cons_append]

/-- Folding a line by its bytes ends after finitely many rounds, with the bytes of the folded line.
Every cut comes after a whole character. A document is its content lines, each of them folded, and
so in physical lines of bounded length, whatever the component holds. A content line without
carriage returns is what is left of its folded form when the cuts are taken out. -/
theorem fold_fits_and_joins (c : Component) (line : List Char) :
    (∃ last, Relation.ReflTransGen Cutting.Step (.ofLine line) last ∧
      last.rest.length ≤ last.limit ∧ last.output = octets (foldLine line)) ∧
    (∀ s, Relation.ReflTransGen Cutting.Step (.ofLine line) s →
      ∃ done todo, line = done ++ todo ∧ s.rest = octets todo ∧
        (s.limit < s.rest.length → 0 < s.cut)) ∧
    c.toText.toList = c.lines.flatMap foldLine ∧
    (∃ lines, c.toText.toList = unfolded lines ∧
      ∀ l ∈ lines, BreakFree l ∧ (octets l).length ≤ width) ∧
    ('\r' ∉ line → withoutCuts (foldLine line) = line ++ ['\r', '\n']) := by
  have htext : c.toText.toList = c.lines.flatMap foldLine := by
    rw [Component.toText, String.toList_ofList, c.write_eq_flatMap_lines]
  refine ⟨(Cutting.within_ofLine line).exists_last, ?_, htext, ?_, ?_⟩
  · intro s hs
    obtain ⟨todo, hwithin⟩ := Cutting.exists_within hs
    obtain ⟨done, hdone⟩ := hwithin.suffix
    refine ⟨done, todo, hdone.symm, hwithin.rest_eq, fun hlong => ?_⟩
    obtain ⟨-, -, -, -, -, hpos, -⟩ := hwithin.exists_cut hlong
    exact hpos
  · rw [htext]
    exact fits_flatMap_foldLine c.lines
  · exact fun hr => withoutCuts_fold hr width

/-- A line whose second physical line begins with blanks of its own, after which a character of
three bytes falls on the limit. -/
def agenda : List Char :=
  "SUMMARY:".toList ++ (List.replicate 22 '日' ++ "   \tlunch ".toList ++ List.replicate 30 '程')

theorem withoutCuts_foldLine_agenda : '\r' ∉ agenda ∧
    withoutCuts (foldLine agenda) = agenda ++ ['\r', '\n'] :=
  have hr : '\r' ∉ agenda := by decide +kernel
  ⟨hr, (fold_fits_and_joins ⟨"VEVENT", [], []⟩ agenda).2.2.2.2 hr⟩

end CalendarRelay.Folding
