import Mathlib
import CalendarRelay.Catalogue.Address

namespace CalendarRelay.Address

open Text

/-- ASCII letters, digits, underscores and hyphens, at least one of them. -/
def IsName (name : String) : Prop :=
  name ≠ "" ∧ ∀ c ∈ name.toList,
    ('a' ≤ c ∧ c ≤ 'z') ∨ ('A' ≤ c ∧ c ≤ 'Z') ∨ ('0' ≤ c ∧ c ≤ '9') ∨ c = '_' ∨ c = '-'

/-- A label of one to six characters, which ends at a boundary of a word, and a path. -/
def IsLabelled (cs : List Char) : Prop :=
  ∃ label path, cs = label ++ path ∧ 1 ≤ label.length ∧ label.length ≤ 6 ∧
    (∀ c ∈ label, isLabelChar c = true) ∧ (∀ c ∈ path, isTailChar c = true) ∧
    label.getLast?.any isWordChar ≠ path.head?.any isWordChar

/-- A host of one to 256 characters, a dot, and what the dot introduces. -/
def IsSite (cs : List Char) : Prop :=
  ∃ host rest, cs = host ++ '.' :: rest ∧ 1 ≤ host.length ∧ host.length ≤ 256 ∧
    (∀ c ∈ host, isHostChar c = true) ∧ IsLabelled rest

/-- A scheme of the web, `www.` or nothing, and a site. -/
def IsFeedAddress (url : String) : Prop :=
  ∃ scheme www site, url.toList = scheme ++ (www ++ site) ∧
    (scheme = "http://".toList ∨ scheme = "https://".toList) ∧
    (www = [] ∨ www = "www.".toList) ∧ IsSite site

theorem isCalendarName_iff {name : String} : isCalendarName name = true ↔ IsName name := by
  have hempty : name.toList.isEmpty = true ↔ name = "" := by
    rw [List.isEmpty_iff, String.toList_eq_nil_iff]
  simp only [isCalendarName, IsName, Bool.and_eq_true, Bool.not_eq_true', List.all_eq_true,
    ← Bool.not_eq_true, hempty, isNameChar, isLetter, isUpperChar, isLowerChar, isDigit,
    Bool.or_eq_true, decide_eq_true_eq, beq_iff_eq]
  refine and_congr_right fun _ => forall₂_congr fun c _ => ?_
  tauto

theorem endsInLabel_iff {cs : List Char} : endsInLabel cs = true ↔ IsLabelled cs := by
  simp only [endsInLabel, List.any_eq_true, List.mem_range, Bool.and_eq_true, beq_iff_eq,
    List.all_eq_true, bne_iff_ne]
  constructor
  · rintro ⟨k, hk, ⟨⟨hlength, hlabel⟩, hpath⟩, hboundary⟩
    exact ⟨cs.take (k + 1), cs.drop (k + 1), (List.take_append_drop _ cs).symm, by omega, by omega,
      hlabel, hpath, hboundary⟩
  · rintro ⟨label, path, rfl, hpos, hsix, hlabel, hpath, hboundary⟩
    have hk : label.length - 1 + 1 = label.length := by omega
    refine ⟨label.length - 1, by omega, ?_⟩
    rw [hk, List.take_left, List.drop_left]
    exact ⟨⟨⟨rfl, hlabel⟩, hpath⟩, hboundary⟩

theorem isHost_iff {cs : List Char} : isHost cs = true ↔ IsSite cs := by
  simp only [isHost, List.any_eq_true, List.mem_range, Bool.and_eq_true, beq_iff_eq,
    List.all_eq_true]
  constructor
  · rintro ⟨k, hk, ⟨hlength, hhost⟩, hrest⟩
    split at hrest
    · rename_i rest hdrop
      refine ⟨cs.take (k + 1), rest, ?_, by omega, by omega, hhost, endsInLabel_iff.mp hrest⟩
      rw [← hdrop, List.take_append_drop]
    · simp at hrest
  · rintro ⟨host, rest, rfl, hpos, hmax, hhost, hrest⟩
    have hk : host.length - 1 + 1 = host.length := by omega
    refine ⟨host.length - 1, by omega, ?_⟩
    rw [hk, List.take_left, List.drop_left]
    exact ⟨⟨rfl, hhost⟩, endsInLabel_iff.mpr hrest⟩

theorem afterScheme?_eq_some_iff {cs rest : List Char} : afterScheme? cs = some rest ↔
    cs = "http://".toList ++ rest ∨ cs = "https://".toList ++ rest := by
  rw [← afterMark?_eq_some_iff, ← afterMark?_eq_some_iff, afterScheme?, Option.orElse_eq_orElse,
    Option.orElse_eq_or, Option.or_eq_some_iff]
  constructor
  · rintro (h | ⟨-, h⟩)
    · exact .inr h
    · exact .inl h
  · rintro (h | h)
    · have hother : afterMark? "https://".toList cs = none := by
        rw [afterMark?_eq_some_iff.mp h]
        rfl
      exact .inr ⟨hother, h⟩
    · exact .inl h

theorem isHost_or_www_iff {rest : List Char} :
    (isHost rest || (afterMark? "www.".toList rest).any isHost) = true ↔
      ∃ www site, rest = www ++ site ∧ (www = [] ∨ www = "www.".toList) ∧ IsSite site := by
  rw [Bool.or_eq_true, isHost_iff, Option.any_eq_true]
  constructor
  · rintro (h | ⟨site, hmark, h⟩)
    · exact ⟨[], rest, rfl, .inl rfl, h⟩
    · exact ⟨_, site, afterMark?_eq_some_iff.mp hmark, .inr rfl, isHost_iff.mp h⟩
  · rintro ⟨www, site, rfl, rfl | rfl, h⟩
    · exact .inl h
    · exact .inr ⟨site, afterMark?_eq_some_iff.mpr rfl, isHost_iff.mpr h⟩

/-- The addresses that are accepted are those of the grammar. -/
theorem isFeedUrl_iff {url : String} : isFeedUrl url = true ↔ IsFeedAddress url := by
  rw [isFeedUrl]
  constructor
  · intro h
    split at h
    · rename_i rest hscheme
      obtain ⟨www, site, rfl, hwww, hsite⟩ := isHost_or_www_iff.mp h
      rcases afterScheme?_eq_some_iff.mp hscheme with hurl | hurl
      · exact ⟨_, www, site, hurl, .inl rfl, hwww, hsite⟩
      · exact ⟨_, www, site, hurl, .inr rfl, hwww, hsite⟩
    · simp at h
  · rintro ⟨scheme, www, site, hurl, hscheme, hwww, hsite⟩
    have hafter : afterScheme? url.toList = some (www ++ site) := by
      rw [afterScheme?_eq_some_iff]
      rcases hscheme with rfl | rfl
      · exact .inl hurl
      · exact .inr hurl
    rw [hafter]
    exact isHost_or_www_iff.mpr ⟨www, site, rfl, hwww, hsite⟩

end CalendarRelay.Address
