import Mathlib
import CalendarRelay.Json.Reader

namespace CalendarRelay.Json

theorem lookup?_cons (key : String) (j : Json) (fields : List (String × Json)) (name : String) :
    lookup? ((key, j) :: fields) name = if key = name then some j else lookup? fields name := by
  by_cases h : key = name <;> simp [lookup?, h]

theorem lookup?_eq_none_iff {fields : List (String × Json)} {name : String} :
    lookup? fields name = none ↔ name ∉ fields.map Prod.fst := by
  simp only [lookup?, Option.map_eq_none_iff, List.find?_eq_none, beq_iff_eq, List.mem_map,
    not_exists, not_and]

/-- Fields in increasing order of their keys. -/
def Ordered (fields : List (String × Json)) : Prop := (fields.map Prod.fst).Pairwise (· < ·)

theorem Ordered.nil : Ordered [] := List.Pairwise.nil

theorem ordered_cons {key : String} {value : Json} {fields : List (String × Json)} :
    Ordered ((key, value) :: fields) ↔
      (∀ k ∈ fields.map Prod.fst, key < k) ∧ Ordered fields := List.pairwise_cons

theorem Ordered.nodup {fields : List (String × Json)} (h : Ordered fields) :
    (fields.map Prod.fst).Nodup := List.Pairwise.imp (fun hlt => ne_of_lt hlt) h

theorem mem_keys_insertField {key k : String} {value : Json} {fields : List (String × Json)}
    (h : k ∈ (insertField key value fields).map Prod.fst) : k = key ∨ k ∈ fields.map Prod.fst := by
  induction fields with
  | nil => simpa [insertField] using h
  | cons f fields ih =>
    obtain ⟨k', v'⟩ := f
    rw [insertField] at h
    split at h
    · rcases List.mem_cons.mp h with hk | hk
      · exact .inl hk
      · exact .inr (List.mem_cons_of_mem _ hk)
    · split at h
      · exact List.mem_cons.mp h
      · rcases List.mem_cons.mp h with hk | hk
        · exact .inr (hk ▸ List.mem_cons_self)
        · rcases ih hk with hk | hk
          · exact .inl hk
          · exact .inr (List.mem_cons_of_mem _ hk)

theorem Ordered.insertField {fields : List (String × Json)} (h : Ordered fields) (key : String)
    (value : Json) : Ordered (insertField key value fields) := by
  induction fields with
  | nil => exact List.pairwise_singleton _ _
  | cons f fields ih =>
    obtain ⟨k, v⟩ := f
    obtain ⟨hlt, hfields⟩ := ordered_cons.mp h
    rw [Json.insertField]
    split
    · rename_i hk
      exact ordered_cons.mpr ⟨hk ▸ hlt, hfields⟩
    · rename_i hne
      split
      · rename_i hk
        refine ordered_cons.mpr ⟨?_, h⟩
        intro k' hk'
        rcases List.mem_cons.mp hk' with rfl | hk'
        · exact hk
        · exact hk.trans (hlt k' hk')
      · rename_i hnot
        refine ordered_cons.mpr ⟨?_, ih hfields⟩
        intro k' hk'
        rcases mem_keys_insertField hk' with rfl | hk'
        · exact lt_of_le_of_ne (not_lt.mp hnot) (Ne.symm hne)
        · exact hlt k' hk'

theorem ordered_foldl_insertField (added : List (String × Json)) {fields : List (String × Json)}
    (h : Ordered fields) :
    Ordered (added.foldl (fun acc (k, v) => insertField k v acc) fields) := by
  induction added generalizing fields with
  | nil => exact h
  | cons f added ih => exact ih (h.insertField f.1 f.2)

/-- Whether the keys of a value, if it is an object, are in order, as those of every value are
that is read from text or built by `ofFields`. -/
def IsOrdered (j : Json) : Prop := ∀ fields, j.fields? = some fields → Ordered fields

theorem isOrdered_ofFields (fields : List (String × Json)) : (ofFields fields).IsOrdered := by
  intro found h
  have hfound : found = fields.foldl (fun acc (k, v) => insertField k v acc) [] :=
    (Option.some.inj h).symm
  exact hfound ▸ ordered_foldl_insertField fields .nil

theorem fields?_of_number? {negative : Bool} {whole : List Char} {fraction : Option (List Char)}
    {exponent : Option Int} {j : Json} (h : number? negative whole fraction exponent = some j) :
    j.fields? = none := by
  rw [number?] at h
  simp only at h
  split at h
  · exact Option.some.inj h ▸ rfl
  · split at h
    · exact Option.some.inj h ▸ rfl
    · obtain ⟨x, -, rfl⟩ := Option.map_eq_some_iff.mp h
      rfl

theorem fields?_of_readNumber {cs rest : List Char} {j : Json}
    (h : readNumber cs = some (j, rest)) : j.fields? = none := by
  simp only [readNumber, Option.bind_eq_bind, Option.bind_eq_some_iff, Option.pure_def] at h
  obtain ⟨-, -, fraction, -, exponent, -, value, hvalue, hj⟩ := h
  have hj : value = j := (Prod.mk.inj (Option.some.inj hj)).1
  exact fields?_of_number? (hj ▸ hvalue)

theorem isOrdered_of_fields?_eq_none {j : Json} (h : j.fields? = none) : j.IsOrdered := by
  intro fields hfields
  simp [h] at hfields

theorem isOrdered_of_readValue {fuel depth : Nat} {cs rest : List Char} {j : Json}
    (h : readValue fuel depth cs = some (j, rest)) : j.IsOrdered := by
  cases fuel with
  | zero => simp [readValue] at h
  | succ fuel =>
    rw [readValue] at h
    split at h
    · exact (Prod.mk.inj (Option.some.inj h)).1 ▸ isOrdered_of_fields?_eq_none rfl
    · exact (Prod.mk.inj (Option.some.inj h)).1 ▸ isOrdered_of_fields?_eq_none rfl
    · exact (Prod.mk.inj (Option.some.inj h)).1 ▸ isOrdered_of_fields?_eq_none rfl
    · obtain ⟨_, _, hj⟩ := Option.map_eq_some_iff.mp h
      exact (Prod.mk.inj hj).1 ▸ isOrdered_of_fields?_eq_none rfl
    · split at h
      · simp at h
      · split at h
        · exact (Prod.mk.inj (Option.some.inj h)).1 ▸ isOrdered_of_fields?_eq_none rfl
        · obtain ⟨_, _, hj⟩ := Option.map_eq_some_iff.mp h
          exact (Prod.mk.inj hj).1 ▸ isOrdered_of_fields?_eq_none rfl
    · split at h
      · simp at h
      · split at h
        · exact (Prod.mk.inj (Option.some.inj h)).1 ▸ isOrdered_ofFields []
        · obtain ⟨_, _, hj⟩ := Option.map_eq_some_iff.mp h
          exact (Prod.mk.inj hj).1 ▸ isOrdered_ofFields _
    · exact isOrdered_of_fields?_eq_none (fields?_of_readNumber h)

/-- The keys of a document that is read are in order. -/
theorem isOrdered_of_ofText? {text : String} {j : Json} (h : ofText? text = some j) :
    j.IsOrdered := by
  rw [ofText?] at h
  split at h
  · rename_i value rest hread
    split at h
    · exact Option.some.inj h ▸ isOrdered_of_readValue hread
    · simp at h
  · simp at h

end CalendarRelay.Json
