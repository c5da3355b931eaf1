import CalendarRelay.Calendar.Escape
import CalendarRelay.Proofs.Folding

namespace CalendarRelay.Escape

open Folding

@[simp] theorem escape_nil : escape [] = [] := rfl

@[simp] theorem escape_cons (c : Char) (cs : List Char) :
    escape (c :: cs) = escapeChar c ++ escape cs := List.flatMap_cons

/-- A character stands for itself, is left out, or is told by the one after a backslash. -/
theorem escapeChar_cases (c : Char) :
    escapeChar c = [c] ∧ c ≠ '\\' ∧ isLineEnd c = false ∨
      escapeChar c = [] ∧ c = '\r' ∨
      ∃ d, escapeChar c = ['\\', d] ∧ unescapeChar? d = some c ∧ (d = c ∨ d = 'n') ∧
        isLineEnd d = false := by
  unfold escapeChar
  split
  · exact .inr (.inr ⟨'\\', by decide⟩)
  · exact .inr (.inr ⟨';', by decide⟩)
  · exact .inr (.inr ⟨',', by decide⟩)
  · exact .inr (.inr ⟨'n', by decide⟩)
  · exact .inr (.inl ⟨rfl, rfl⟩)
  · rename_i hb _ _ hf hr
    exact .inl ⟨rfl, hb, by simpa [isLineEnd] using ⟨hr, hf⟩⟩

theorem escapeChar_eq_self_iff {c : Char} : escapeChar c = [c] ↔
    c ≠ '\\' ∧ c ≠ ';' ∧ c ≠ ',' ∧ c ≠ '\n' ∧ c ≠ '\r' := by
  constructor
  · intro h
    refine ⟨?_, ?_, ?_, ?_, ?_⟩ <;> rintro rfl <;> simp [escapeChar] at h
  · rintro ⟨hb, hs, hc, hn, hr⟩
    rw [escapeChar] <;> assumption

theorem unescape_cons {c : Char} (hc : c ≠ '\\') (cs : List Char) :
    unescape (c :: cs) = c :: unescape cs := by
  rw [unescape]
  simp_all

theorem unescape_pair {c d : Char} (h : unescapeChar? d = some c) (cs : List Char) :
    unescape ('\\' :: d :: cs) = c :: unescape cs := by
  rw [unescape, h]

theorem unescape_escape {v : List Char} (h : '\r' ∉ v) : unescape (escape v) = v := by
  induction v with
  | nil => rfl
  | cons c cs ih =>
    simp only [List.mem_cons, not_or] at h
    rw [escape_cons]
    rcases escapeChar_cases c with ⟨he, hc, -⟩ | ⟨-, hc⟩ | ⟨d, he, hd, -⟩
    · rw [he, List.singleton_append, unescape_cons hc, ih h.2]
    · exact absurd hc.symm h.1
    · rw [he]
      change unescape ('\\' :: d :: escape cs) = _
      rw [unescape_pair hd, ih h.2]

theorem unescape_eq_self {v : List Char} (h : '\\' ∉ v) : unescape v = v := by
  induction v with
  | nil => rfl
  | cons c cs ih =>
    simp only [List.mem_cons, not_or] at h
    rw [unescape_cons (Ne.symm h.1), ih h.2]

/-- An escaped text stays on one line. -/
theorem isLineEnd_of_mem_escape {c : Char} {v : List Char} (h : c ∈ escape v) :
    isLineEnd c = false := by
  induction v with
  | nil => simp at h
  | cons a cs ih =>
    rw [escape_cons, List.mem_append] at h
    rcases h with h | h
    · rcases escapeChar_cases a with ⟨he, -, ha⟩ | ⟨he, -⟩ | ⟨d, he, -, -, hd⟩
      · have hc : c = a := by simpa [he] using h
        exact hc ▸ ha
      · simp [he] at h
      · have hc : c = '\\' ∨ c = d := by simpa [he] using h
        rcases hc with rfl | rfl
        · rfl
        · exact hd
    · exact ih h

/-- Escaping brings in no characters but backslashes and the letter for line feeds. -/
theorem mem_of_mem_escape {c : Char} {v : List Char} (h : c ∈ escape v) :
    c = '\\' ∨ c = 'n' ∨ c ∈ v := by
  induction v with
  | nil => simp at h
  | cons a cs ih =>
    rw [escape_cons, List.mem_append] at h
    rcases h with h | h
    · rcases escapeChar_cases a with ⟨he, -⟩ | ⟨he, -⟩ | ⟨d, he, -, hd, -⟩
      · exact .inr (.inr (by simp_all))
      · simp [he] at h
      · rcases hd with rfl | rfl <;> simp_all <;> tauto
    · rcases ih h with hc | hc | hc
      · exact .inl hc
      · exact .inr (.inl hc)
      · exact .inr (.inr (by simp [hc]))

theorem length_le_length_escape {v : List Char} (h : '\r' ∉ v) :
    v.length ≤ (escape v).length := by
  induction v with
  | nil => simp
  | cons c cs ih =>
    simp only [List.mem_cons, not_or] at h
    have hcs := ih h.2
    rcases escapeChar_cases c with ⟨he, -⟩ | ⟨-, hc⟩ | ⟨d, he, -⟩
    · simp [he, hcs]
    · exact absurd hc.symm h.1
    · simp [he]
      omega

/-- Only a text in which nothing needs escaping is its own escaped form. -/
theorem escape_eq_self_iff {v : List Char} : escape v = v ↔ ∀ c ∈ v, escapeChar c = [c] := by
  constructor
  · intro h
    have hr : '\r' ∉ v := fun hr => by
      have := isLineEnd_of_mem_escape (h.symm ▸ hr)
      simp [isLineEnd] at this
    induction v with
    | nil => simp
    | cons c cs ih =>
      simp only [List.mem_cons, not_or] at hr
      rw [escape_cons] at h
      rcases escapeChar_cases c with ⟨he, -⟩ | ⟨-, hc⟩ | ⟨d, he, -⟩
      · rw [he] at h
        have htail : escape cs = cs := by simpa using h
        simpa [he] using ih htail hr.2
      · exact absurd hc.symm hr.1
      · have hlen := congrArg List.length h
        have hle := length_le_length_escape hr.2
        simp only [he, List.length_append, List.length_cons, List.length_nil] at hlen
        omega
  · intro h
    induction v with
    | nil => rfl
    | cons c cs ih =>
      rw [escape_cons, h c (by simp), ih fun d hd => h d (by simp [hd])]
      rfl

end CalendarRelay.Escape
