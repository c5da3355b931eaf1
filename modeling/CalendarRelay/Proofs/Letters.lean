import Mathlib
import CalendarRelay.Text.Ascii

namespace CalendarRelay.Text

theorem isUpperChar_eq (c : Char) : isUpperChar c = c.isUpper := by
  simp [isUpperChar, Char.isUpper, Char.le_def]

theorem isLowerChar_eq (c : Char) : isLowerChar c = c.isLower := by
  simp [isLowerChar, Char.isLower, Char.le_def]

/-- An upper-case letter or a hyphen. -/
def isCapital (c : Char) : Bool := isUpperChar c || c == '-'

/-- A lower-case letter or a hyphen. -/
def isSmall (c : Char) : Bool := isLowerChar c || c == '-'

/-- A word of upper-case letters and hyphens that begins with a letter. -/
def isCapitalWord : List Char → Bool
  | c :: cs => isUpperChar c && cs.all isCapital
  | [] => false

/-- A word of lower-case letters and hyphens. -/
def isSmallWord (cs : List Char) : Bool := !cs.isEmpty && cs.all isSmall

theorem isCapital_of_isCapitalWord {cs : List Char} (h : isCapitalWord cs = true) :
    ∀ c ∈ cs, isCapital c = true := by
  cases cs with
  | nil => simp
  | cons c cs =>
    simp only [isCapitalWord, Bool.and_eq_true, List.all_eq_true] at h
    intro d hd
    rcases List.mem_cons.mp hd with rfl | hd
    · simp [isCapital, h.1]
    · exact h.2 d hd

theorem isLower_eq_false_of_isCapital {c : Char} (h : isCapital c = true) : c.isLower = false := by
  rcases Bool.or_eq_true _ _ ▸ h with hc | hc
  · have hl := Char.not_isLower_of_isUpper (isUpperChar_eq c ▸ hc)
    simpa using hl
  · have : c = '-' := by simpa using hc
    subst this
    decide

theorem isUpper_eq_false_of_isSmall {c : Char} (h : isSmall c = true) : c.isUpper = false := by
  rcases Bool.or_eq_true _ _ ▸ h with hc | hc
  · have hu := Char.not_isUpper_of_isLower (isLowerChar_eq c ▸ hc)
    simpa using hu
  · have : c = '-' := by simpa using hc
    subst this
    decide

theorem isCapital_toUpper {c : Char} (h : isSmall c = true) : isCapital c.toUpper = true := by
  rcases Bool.or_eq_true _ _ ▸ h with hc | hc
  · have hl : c.isLower = true := isLowerChar_eq c ▸ hc
    simp [isCapital, isUpperChar_eq, Char.isAlpha, hl]
  · have : c = '-' := by simpa using hc
    subst this
    decide

theorem toList_upper (s : String) : (upper s).toList = s.toList.map Char.toUpper := by
  simp [upper]

theorem upper_upper (s : String) : upper (upper s) = upper s := by
  simp [upper, Function.comp_def]

theorem map_toUpper_of_isCapitalWord {cs : List Char} (h : isCapitalWord cs = true) :
    cs.map Char.toUpper = cs := by
  have hc : ∀ c ∈ cs, c.toUpper = id c := by
    intro c hc
    have hl := isLower_eq_false_of_isCapital (isCapital_of_isCapitalWord h c hc)
    exact Char.toUpper_eq_of_not_isLower (by simp [hl])
  rw [List.map_congr_left hc, List.map_id]

theorem upper_of_isCapitalWord {s : String} (h : isCapitalWord s.toList = true) : upper s = s := by
  rw [upper, map_toUpper_of_isCapitalWord h, String.ofList_toList]

theorem lower_upper {s : String} (h : ∀ c ∈ s.toList, c.isUpper = false) :
    lower (upper s) = s := by
  have hc : ∀ c ∈ s.toList, c.toLower = id c := fun c hc =>
    Char.toLower_eq_of_not_isUpper (by simp [h c hc])
  have hboth : (upper s).toList.map Char.toLower = s.toList.map Char.toLower := by
    simp [upper, Function.comp_def]
  rw [lower, hboth, List.map_congr_left hc, List.map_id, String.ofList_toList]

theorem lower_upper_lower (s : String) : lower (upper (lower s)) = lower s := by
  simp [lower, upper, Function.comp_def]

theorem lower_upper_of_isSmallWord {s : String} (h : isSmallWord s.toList = true) :
    lower (upper s) = s := by
  simp only [isSmallWord, Bool.and_eq_true, List.all_eq_true] at h
  exact lower_upper fun c hc => isUpper_eq_false_of_isSmall (h.2 c hc)

/-- A character that is no letter is the lower-case form of itself alone. -/
theorem eq_of_toLower {c d : Char} (hd : d.isAlpha = false) (h : c.toLower = d) : c = d := by
  by_cases hc : c.isUpper = true
  · have hl := Char.isAlpha_toLower_eq_isAlpha c
    rw [h, hd, Char.isAlpha, hc] at hl
    simp at hl
  · rwa [Char.toLower_eq_of_not_isUpper hc] at h

theorem eq_of_toUpper {c d : Char} (hd : d.isAlpha = false) (h : c.toUpper = d) : c = d := by
  have hlower := congrArg Char.toLower h
  have hupper : d.isUpper = false := (Bool.or_eq_false_iff.mp hd).1
  have hself : d.toLower = d := Char.toLower_eq_of_not_isUpper (by simp [hupper])
  rw [Char.toLower_toUpper_eq_toLower, hself] at hlower
  exact eq_of_toLower hd hlower

/-- Names that are equal up to case have one upper-case form. -/
theorem upper_eq_of_sameName {a b : String} (h : sameName a b = true) : upper a = upper b := by
  rw [sameName_iff] at h
  have hmap := congrArg (List.map Char.toUpper) h
  simp only [List.map_map, Function.comp_def, Char.toUpper_toLower_eq_toUpper] at hmap
  rw [upper, upper, hmap]

end CalendarRelay.Text
