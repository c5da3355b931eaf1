import CalendarRelay.Proofs.Letters
import CalendarRelay.Rule.Comparison

namespace CalendarRelay

namespace Text

theorem toLower_of_not_ascii {c : Char} (hc : 0x80 ≤ c.toNat) : c.toLower = c := by
  apply Char.toLower_eq_of_not_isUpper
  rw [← isUpperChar_eq]
  simp only [isUpperChar, Bool.and_eq_true, decide_eq_true_eq, Char.le_def,
    UInt32.le_iff_toNat_le, not_and, not_le]
  intro _
  have hz : 'Z'.val.toNat = 90 := rfl
  have hn : c.toNat = c.val.toNat := rfl
  omega

end Text

namespace Unicode.Lower

/-- Whether all that a run moves stays beyond ASCII and is a character; the one exception is the
Kelvin sign, whose lower case is a `k`. -/
def staysOutside (r : Runs) : Bool :=
  let first := r.image r.first
  let last := r.image r.last
  r.down ≤ r.first + r.up && 0x80 ≤ first && (last < 0xD800 || 0xDFFF < first && last < 0x110000) ||
    r.first == r.last && first == 'k'.toNat

theorem all_staysOutside : runs.all staysOutside = true := by decide +kernel

theorem ofNat_image_of_covers {r : Runs} (hr : r ∈ runs) {n : Nat} (hn : r.covers n = true) :
    0x80 ≤ (Char.ofNat (r.image n)).toNat ∨ Char.ofNat (r.image n) = 'k' := by
  have hstays := List.all_eq_true.mp all_staysOutside r hr
  have hspan : r.first ≤ n ∧ n ≤ r.last := by
    simp only [Runs.covers, Bool.and_eq_true, decide_eq_true_eq] at hn
    exact hn.1
  simp only [staysOutside, Bool.or_eq_true, Bool.and_eq_true, decide_eq_true_eq,
    beq_iff_eq] at hstays
  simp only [Runs.image] at hstays ⊢
  rcases hstays with ⟨⟨hdown, hfirst⟩, hlast⟩ | ⟨hone, hk⟩
  · left
    have hvalid : Nat.isValidChar (n + r.up - r.down) := by
      unfold Nat.isValidChar
      omega
    rw [Char.toNat_ofNat, if_pos hvalid]
    omega
  · right
    have himage : n + r.up - r.down = 'k'.toNat := by omega
    rw [himage, Char.ofNat_toNat]

/-- A character beyond ASCII has something in its lower case that is beyond ASCII too, or a `k`. -/
theorem exists_mem_ofChar {c : Char} (hc : 0x80 ≤ c.toNat) :
    ∃ d ∈ ofChar c, 0x80 ≤ d.toNat ∨ d = 'k' := by
  rw [ofChar, if_neg (Nat.not_lt.mpr hc)]
  split
  · exact ⟨'\u0307', by simp, .inl (by decide)⟩
  · split
    · rename_i r hr
      have hcovers := List.find?_some hr
      exact ⟨_, List.mem_singleton.mpr rfl,
        ofNat_image_of_covers (List.mem_of_find?_eq_some hr) hcovers⟩
    · exact ⟨c, List.mem_singleton.mpr rfl, .inl hc⟩

theorem ofChars_of_ascii {before cs : List Char} (h : ∀ c ∈ cs, c.toNat < 0x80) :
    ofChars before cs = cs.map Char.toLower := by
  induction cs generalizing before with
  | nil => rfl
  | cons c cs ih =>
    have hc := h c (by simp)
    have hsigma : c ≠ 'Σ' := by rintro rfl; revert hc; decide
    rw [ofChars, if_neg hsigma, ofChar, if_pos hc, ih fun d hd => h d (by simp [hd])]
    rfl

/-- Only ASCII becomes ASCII without a `k`. -/
theorem ascii_of_ofChars {before cs : List Char}
    (h : ∀ d ∈ ofChars before cs, d.toNat < 0x80 ∧ d ≠ 'k') : ∀ c ∈ cs, c.toNat < 0x80 := by
  induction cs generalizing before with
  | nil => simp
  | cons c cs ih =>
    simp only [ofChars, List.mem_append] at h
    have hrest := ih fun d hd => h d (.inr hd)
    have hc : c.toNat < 0x80 := by
      by_contra hc
      have hc := Nat.not_lt.mp hc
      by_cases hsigma : c = 'Σ'
      · have hs := h (sigma before cs) (.inl (by simp [hsigma]))
        have hout : 0x80 ≤ (sigma before cs).toNat := by
          unfold sigma
          split <;> decide
        omega
      · obtain ⟨d, hd, hout⟩ := exists_mem_ofChar hc
        have hin := h d (.inl (by rwa [if_neg hsigma]))
        rcases hout with hout | hout
        · omega
        · exact hin.2 hout
    intro d hd
    rcases List.mem_cons.mp hd with rfl | hd
    · exact hc
    · exact hrest d hd

/-- A text has an ASCII word without a `k` as its lower case exactly when it is that word up to the
case of ASCII letters. -/
theorem ofText_eq_iff {s word : String} (hword : ∀ d ∈ word.toList, d.toNat < 0x80 ∧ d ≠ 'k') :
    ofText s = word ↔ Text.lower s = word := by
  rw [← String.toList_inj, ← String.toList_inj, ofText, Text.lower, String.toList_ofList,
    String.toList_ofList]
  constructor
  · intro h
    rw [← ofChars_of_ascii (ascii_of_ofChars (h ▸ hword)), h]
  · intro h
    have hascii : ∀ c ∈ s.toList, c.toNat < 0x80 := by
      intro c hc
      by_contra hout
      have hlower := Text.toLower_of_not_ascii (Nat.not_lt.mp hout)
      have hmem : c ∈ word.toList := h ▸ hlower ▸ List.mem_map_of_mem hc
      exact hout (hword c hmem).1
    rw [ofChars_of_ascii hascii, h]

end Unicode.Lower

namespace Rule.Comparison

theorem symbol_ascii (c : Comparison) : ∀ d ∈ c.symbol.toList, d.toNat < 0x80 ∧ d ≠ 'k' := by
  cases c <;> simp [symbol]

theorem find?_symbol (c : Comparison) : all.find? (fun d => d.symbol == c.symbol) = some c := by
  cases c <;> decide

theorem toLower_symbol (c : Comparison) :
    c.symbol.toList.map Char.toLower = c.symbol.toList := by
  cases c <;> decide

/-- The texts that name a comparison are its symbol in any ASCII case, and no others. -/
theorem ofSymbol?_eq_some_iff {s : String} {c : Comparison} :
    ofSymbol? s = some c ↔ Text.sameName s c.symbol = true := by
  have hsame : Text.sameName s c.symbol = true ↔ Text.lower s = c.symbol := by
    rw [Text.sameName_iff, toLower_symbol, ← String.toList_inj, Text.lower, String.toList_ofList]
  rw [hsame, ← Unicode.Lower.ofText_eq_iff c.symbol_ascii]
  constructor
  · intro h
    have hfound := List.find?_some h
    exact (beq_iff_eq.mp hfound).symm
  · intro h
    rw [ofSymbol?, h, find?_symbol]

end Rule.Comparison

end CalendarRelay
