import Mathlib
import CalendarRelay.Gateway.Serve

namespace CalendarRelay.Gateway

open Text

theorem Route.ofTarget_of_pathOf {target : String} {segment : List Char}
    (h : pathOf target.toList = '/' :: segment) : ofTarget target =
      if segment = [] then index
      else if segment = "health".toList then health
      else if '/' ∈ segment then unmatched
      else file segment := by
  rw [ofTarget, h]
  cases segment with
  | nil => rfl
  | cons c rest => simp

theorem Route.ofTarget_of_forall_ne {target : String}
    (h : ∀ segment, pathOf target.toList ≠ '/' :: segment) : ofTarget target = unmatched := by
  rw [ofTarget]
  split
  · rename_i hpath
    exact absurd hpath (h [])
  · rename_i segment _ hpath
    exact absurd hpath (h segment)
  · rfl

/-- A path leads to a file exactly if it is one segment, not empty, and not the one that leads to
the state of the service. -/
theorem Route.ofTarget_eq_file_iff {target : String} {segment : List Char} :
    ofTarget target = file segment ↔ pathOf target.toList = '/' :: segment ∧
      segment ≠ [] ∧ segment ≠ "health".toList ∧ '/' ∉ segment := by
  constructor
  · intro h
    by_cases hpath : ∃ rest, pathOf target.toList = '/' :: rest
    · obtain ⟨rest, hpath⟩ := hpath
      rw [ofTarget_of_pathOf hpath] at h
      split_ifs at h with hnil hhealth hslash
      have hrest : rest = segment := Route.file.inj h
      exact ⟨hrest ▸ hpath, hrest ▸ hnil, hrest ▸ hhealth, hrest ▸ hslash⟩
    · rw [not_exists] at hpath
      rw [ofTarget_of_forall_ne hpath] at h
      simp at h
  · intro h
    obtain ⟨hpath, hnil, hhealth, hslash⟩ := h
    rw [ofTarget_of_pathOf hpath, if_neg hnil, if_neg hhealth, if_neg hslash]

theorem calendarName?_eq_some_iff {file name : String} :
    calendarName? file = some name ↔ file = name ++ calendarSuffix := by
  rw [calendarName?, Option.map_eq_some_iff]
  simp only [afterMark?_eq_some_iff]
  constructor
  · intro h
    obtain ⟨rest, hrest, hname⟩ := h
    have hfile := congrArg List.reverse hrest
    apply String.toList_injective
    rw [← hname, String.toList_append, String.toList_ofList]
    simpa using hfile
  · intro h
    refine ⟨name.toList.reverse, ?_, ?_⟩
    · rw [h, String.toList_append, List.reverse_append]
    · rw [List.reverse_reverse, String.ofList_toList]

/-- A file is for a calendar of the store exactly if it has its name, with the suffix. -/
theorem definition?_eq_ok_iff {store : Store} {file : String} {d : Definition} :
    definition? store file = .ok d ↔
      ∃ name, file = name ++ calendarSuffix ∧ store.snapshot.get? name = some d := by
  simp only [← calendarName?_eq_some_iff]
  rw [definition?]
  cases hname : calendarName? file with
  | none => simp
  | some name => cases hd : store.snapshot.get? name <;> simp [hd]

theorem decodeSegment?_nil : decodeSegment? [] = some "" := by decide +kernel

theorem decodeSegment?_health : decodeSegment? "health".toList = some "health" := by decide +kernel

/-- A request that reads a calendar of the store: it gets a path of one segment, which is the name
of the calendar with the suffix. -/
structure Reads (store : Store) (request : Request) (d : Definition) : Prop where
  method : request.method = "GET" ∨ request.method = "HEAD"
  path : ∃ segment name, Route.pathOf request.target.toList = '/' :: segment ∧ '/' ∉ segment ∧
    decodeSegment? segment = some (name ++ calendarSuffix) ∧ store.snapshot.get? name = some d

theorem append_calendarSuffix_ne_empty (name : String) : name ++ calendarSuffix ≠ "" := by
  intro h
  have hlength := congrArg String.length h
  simp [calendarSuffix] at hlength

theorem append_calendarSuffix_ne_health (name : String) : name ++ calendarSuffix ≠ "health" := by
  intro h
  have hlast := congrArg (fun s => s.toList.getLast?) h
  simp [calendarSuffix, List.getLast?_append] at hlast

theorem reads_iff {store : Store} {request : Request} {d : Definition} :
    Reads store request d ↔ (request.method = "GET" ∨ request.method = "HEAD") ∧
      ∃ segment file, Route.ofTarget request.target = .file segment ∧
        decodeSegment? segment = some file ∧ definition? store file = .ok d := by
  constructor
  · intro h
    obtain ⟨segment, name, hpath, hslash, hdecode, hget⟩ := h.path
    have hnil : segment ≠ [] := by
      intro hnil
      rw [hnil, decodeSegment?_nil] at hdecode
      exact append_calendarSuffix_ne_empty name (Option.some.inj hdecode).symm
    have hhealth : segment ≠ "health".toList := by
      intro hhealth
      rw [hhealth, decodeSegment?_health] at hdecode
      exact append_calendarSuffix_ne_health name (Option.some.inj hdecode).symm
    refine ⟨h.method, segment, name ++ calendarSuffix, ?_, hdecode, ?_⟩
    · exact Route.ofTarget_eq_file_iff.mpr ⟨hpath, hnil, hhealth, hslash⟩
    · exact definition?_eq_ok_iff.mpr ⟨name, rfl, hget⟩
  · intro h
    obtain ⟨hmethod, segment, file, hroute, hdecode, hd⟩ := h
    obtain ⟨hpath, -, -, hslash⟩ := Route.ofTarget_eq_file_iff.mp hroute
    obtain ⟨name, hfile, hget⟩ := definition?_eq_ok_iff.mp hd
    exact ⟨hmethod, segment, name, hpath, hslash, hfile ▸ hdecode, hget⟩

theorem Reads.unique {store : Store} {request : Request} {d e : Definition}
    (hd : Reads store request d) (he : Reads store request e) : d = e := by
  obtain ⟨-, segment, file, hroute, hdecode, hd⟩ := reads_iff.mp hd
  obtain ⟨-, segment', file', hroute', hdecode', he⟩ := reads_iff.mp he
  have hsegment : segment = segment' := Route.file.inj (hroute.symm.trans hroute')
  have hfile : file = file' := by
    rw [hsegment, hdecode'] at hdecode
    exact (Option.some.inj hdecode).symm
  rw [hfile, he] at hd
  exact (Except.ok.inj hd).symm

end CalendarRelay.Gateway
