import CalendarRelay.Proofs.ContentLine
import CalendarRelay.Proofs.Tree

namespace CalendarRelay

open Text Document Folding

namespace Component

mutual

/-- The content lines of a component, before they are folded. -/
def lines : Component → List (List Char)
  | ⟨name, properties, components⟩ =>
    openingLine name ::
      (properties.map Property.contentLine ++ (linesAll components ++ [closingLine name]))

def linesAll : List Component → List (List Char)
  | [] => []
  | c :: rest => lines c ++ linesAll rest

end

theorem linesAll_eq_flatMap (cs : List Component) : linesAll cs = cs.flatMap lines := by
  induction cs with
  | nil => rfl
  | cons c cs ih => rw [linesAll, List.flatMap_cons, ih]

theorem writeAll_eq_flatMap (cs : List Component) : writeAll cs = cs.flatMap write := by
  induction cs with
  | nil => rfl
  | cons c cs ih => rw [writeAll, List.flatMap_cons, ih]

/-- A document is its content lines, each of them folded. -/
theorem write_eq_flatMap_lines (c : Component) : c.write = c.lines.flatMap foldLine := by
  induction c using tree_induction with
  | step name properties components ih =>
    have hcomponents : writeAll components = (linesAll components).flatMap foldLine := by
      rw [writeAll_eq_flatMap, linesAll_eq_flatMap, List.flatMap_assoc]
      exact List.flatMap_congr ih
    simp [write, lines, hcomponents, List.flatMap_map]

/-- A component that is read from its written form as a component of the same form. -/
def Legible (c : Component) : Prop :=
  c.Throughout fun d => IsName d.name ∧ ∀ p ∈ d.properties, p.Legible

/-- A component as it is read from its written form. -/
def reread (c : Component) : Component := c.mapProperties Property.reread

theorem reread_mk (name : String) (properties : List Property) (components : List Component) :
    reread ⟨name, properties, components⟩ =
      ⟨name, properties.map Property.reread, components.map reread⟩ := by
  rw [reread, mapProperties, mapPropertiesAll_eq_map]
  rfl

theorem openingLine_eq {name : String} (h : IsName name) :
    openingLine name = "BEGIN:".toList ++ name.toList := by
  change "BEGIN:".toList ++ (upper name).toList = _
  rw [h.upper_eq]

theorem closingLine_eq {name : String} (h : IsName name) :
    closingLine name = "END:".toList ++ name.toList := by
  change "END:".toList ++ (upper name).toList = _
  rw [h.upper_eq]

theorem isLine_openingLine (name : String) : IsLine (openingLine name) :=
  ⟨'B', _, rfl, rfl, rfl⟩

theorem isLine_closingLine (name : String) : IsLine (closingLine name) :=
  ⟨'E', _, rfl, rfl, rfl⟩

theorem rejoin_openingLine {name : String} (h : IsName name) :
    rejoin (openingLine name) = openingLine name := by
  refine rejoin_eq_self (foldFree_of_not_mem ?_)
  rw [openingLine_eq h]
  simp [feed_not_mem_of_isKeyChar h.chars]

theorem rejoin_closingLine {name : String} (h : IsName name) :
    rejoin (closingLine name) = closingLine name := by
  refine rejoin_eq_self (foldFree_of_not_mem ?_)
  rw [closingLine_eq h]
  simp [feed_not_mem_of_isKeyChar h.chars]

theorem isLine_of_mem_lines {c : Component} (h : c.Legible) : ∀ l ∈ c.lines, IsLine l := by
  induction c using tree_induction with
  | step name properties components ih =>
    obtain ⟨hname, hproperties⟩ := h.here
    intro l hl
    simp only [lines, linesAll_eq_flatMap, List.mem_cons, List.mem_append, List.mem_map,
      List.mem_flatMap, List.not_mem_nil, or_false] at hl
    rcases hl with rfl | ⟨p, hp, rfl⟩ | ⟨d, hd, hl⟩ | rfl
    · exact isLine_openingLine name
    · exact (hproperties p hp).isLine
    · exact ih d hd (h.within d hd) l hl
    · exact isLine_closingLine name

/-- The content lines of a component as they are found in its document. -/
def foundLines (c : Component) : List (List Char) := c.lines.map rejoin

/-- The content lines that are found for a component after the first one. -/
def innerLines (c : Component) : List (List Char) :=
  c.properties.map (fun p => rejoin p.contentLine) ++
    (c.components.flatMap foundLines ++ [closingLine c.name])

theorem foundLines_eq_cons {c : Component} (h : IsName c.name) :
    c.foundLines = openingLine c.name :: c.innerLines := by
  obtain ⟨name, properties, components⟩ := c
  have hfound : foundLines = fun c => c.lines.map rejoin := rfl
  have hopening : rejoin (openingLine name) = openingLine name := rejoin_openingLine h
  have hclosing : rejoin (closingLine name) = closingLine name := rejoin_closingLine h
  simp only [hfound, innerLines, lines, linesAll_eq_flatMap, List.map_cons, List.map_append,
    List.map_map, List.map_flatMap, List.map_nil, Function.comp_def, hopening, hclosing]

theorem isLine_of_mem_foundLines {c : Component} (h : c.Legible) :
    ∀ l ∈ c.foundLines, IsLine l := by
  intro l hl
  obtain ⟨line, hline, rfl⟩ := List.mem_map.mp hl
  exact (isLine_of_mem_lines h line hline).rejoin

/-- Joining the physical lines of a document gives the content lines that are found in it. -/
theorem unfold_write {c : Component} (h : c.Legible) : unfold c.write = unfolded c.foundLines := by
  rw [write_eq_flatMap_lines, unfold_flatMap_foldLine (isLine_of_mem_lines h), foundLines]

theorem isLine_of_mem_innerLines {c : Component} (h : c.Legible) : ∀ l ∈ c.innerLines, IsLine l :=
  fun l hl => isLine_of_mem_foundLines h l (by simp [foundLines_eq_cons h.here.1, hl])

end Component

namespace Document

/-- Whether a text is at the start of a line that is not empty, or at its end. -/
def atLine (cs : List Char) : Bool := cs.head?.all (!isLineEnd ·)

theorem skipLineEnds_eq_self {cs : List Char} (h : atLine cs = true) : skipLineEnds cs = cs := by
  cases cs with
  | nil => rw [skipLineEnds] <;> simp
  | cons c cs =>
    have hc : c ≠ '\r' ∧ c ≠ '\n' := by simpa [atLine, isLineEnd] using h
    rw [skipLineEnds] <;> simp_all

theorem skipLineEnds_lineEnd {cs : List Char} (h : atLine cs = true) :
    skipLineEnds ('\r' :: '\n' :: cs) = cs := by
  rw [skipLineEnds, skipLineEnds_eq_self h]

theorem atLine_append {line : List Char} (h : IsLine line) (rest : List Char) :
    atLine (line ++ rest) = true := by
  obtain ⟨c, line, rfl, hc, -⟩ := h
  simp [atLine, hc]

theorem atLine_unfolded {lines : List (List Char)} (h : ∀ l ∈ lines, IsLine l)
    {rest : List Char} (hrest : atLine rest = true) : atLine (unfolded lines ++ rest) = true := by
  cases lines with
  | nil => exact hrest
  | cons line lines =>
    rw [unfolded_cons, List.append_assoc]
    exact atLine_append (h line (by simp)) _

theorem readBody?_closing {name cs rest : List Char} (h : readClosing? cs = some rest) :
    readBody? name cs = (afterMark? name rest).map fun rest => ({}, skipLineEnds rest) := by
  rw [readBody?, h]

theorem readBody?_property {name cs after : List Char} {p : RawProperty} {found : Body × List Char}
    (hclosing : readClosing? cs = none) (hopening : readOpening? cs = none)
    (hp : readProperty? (skipLineEnds cs) = some (p, after))
    (hshorter : (skipLineEnds after).length < cs.length)
    (h : readBody? name (skipLineEnds after) = some found) :
    readBody? name cs =
      some ({ found.1 with properties := p.toProperty :: found.1.properties }, found.2) := by
  rw [readBody?, hclosing, hopening]
  simp only [hp, hshorter, if_true, h]
  rfl

theorem readBody?_component {name childName cs start after : List Char} {child : Body}
    {found : Body × List Char} (hclosing : readClosing? cs = none)
    (hopening : readOpening? cs = some (childName, start)) (hstart : start.length < cs.length)
    (hchild : readBody? childName start = some (child, after))
    (hshorter : (skipLineEnds after).length < cs.length)
    (h : readBody? name (skipLineEnds after) = some found) :
    readBody? name cs =
      some ({ found.1 with components :=
        ⟨upper (String.ofList childName), child.properties, child.components⟩ ::
          found.1.components }, found.2) := by
  rw [readBody?, hclosing, hopening]
  simp only [hstart, if_true, hchild, hshorter, h]
  rfl

/-- A content line is taken for the next property of the component that is read. -/
theorem readBody?_contentLine {line : List Char} {raw : RawProperty} (hline : ReadsAs line raw)
    {name rest : List Char} {found : Body × List Char} (hrest : atLine rest = true)
    (h : readBody? name rest = some found) :
    readBody? name (line ++ '\r' :: '\n' :: rest) =
      some ({ found.1 with properties := raw.toProperty :: found.1.properties }, found.2) := by
  have hskip := skipLineEnds_eq_self (atLine_append hline.isLine ('\r' :: '\n' :: rest))
  have hreserved := hline.unreserved ('\r' :: '\n' :: rest)
  have hnot (word : List Char) (hword : word = "BEGIN".toList ∨ word = "END".toList) :
      afterWord? (word ++ [':']) (line ++ '\r' :: '\n' :: rest) = none := by
    by_contra hsome
    obtain ⟨after, ha⟩ := Option.ne_none_iff_exists'.mp hsome
    simp [isReserved_of_afterWord? hword ha] at hreserved
  have hclosing : readClosing? (line ++ '\r' :: '\n' :: rest) = none := by
    have hword : "END:".toList = "END".toList ++ [':'] := rfl
    rw [readClosing?, hskip, hword]
    exact hnot "END".toList (.inr rfl)
  have hopening : readOpening? (line ++ '\r' :: '\n' :: rest) = none := by
    have hword : "BEGIN:".toList = "BEGIN".toList ++ [':'] := rfl
    rw [readOpening?, hskip, hword, hnot "BEGIN".toList (.inl rfl)]
    rfl
  have hread := hline.readProperty? rest
  rw [← hskip] at hread
  rw [← skipLineEnds_eq_self hrest] at h
  refine readBody?_property hclosing hopening hread ?_ h
  rw [skipLineEnds_eq_self hrest]
  simp only [List.length_append, List.length_cons]
  omega

theorem readBody?_contentLines {properties : List Property} (hp : ∀ p ∈ properties, p.Legible)
    {name rest : List Char} {found : Body × List Char} (hrest : atLine rest = true)
    (h : readBody? name rest = some found) :
    readBody? name (unfolded (properties.map fun p => rejoin p.contentLine) ++ rest) =
      some ({ found.1 with
        properties := properties.map Property.reread ++ found.1.properties }, found.2) := by
  induction properties with
  | nil => exact h
  | cons p properties ih =>
    have hps : ∀ q ∈ properties, q.Legible := fun q hq => hp q (by simp [hq])
    have hlines : ∀ l ∈ properties.map fun p => rejoin p.contentLine, IsLine l := by
      intro l hl
      obtain ⟨q, hq, rfl⟩ := List.mem_map.mp hl
      exact (hps q hq).isLine.rejoin
    have hline := (hp p (by simp)).readsAs_found
    have hnext := readBody?_contentLine hline (atLine_unfolded hlines hrest) (ih hps)
    simpa [Property.reread] using hnext

theorem readBody?_closingLine {name : String} (hname : IsName name)
    {rest : List Char} (hrest : atLine rest = true) :
    readBody? name.toList (Component.closingLine name ++ '\r' :: '\n' :: rest) =
      some ({}, rest) := by
  rw [Component.closingLine_eq hname, List.append_assoc]
  have hclosing : readClosing? ("END:".toList ++ (name.toList ++ '\r' :: '\n' :: rest)) =
      some (name.toList ++ '\r' :: '\n' :: rest) := by
    rw [readClosing?, skipLineEnds_eq_self rfl, afterWord?_self]
  have hmark : afterMark? name.toList (name.toList ++ '\r' :: '\n' :: rest) =
      some ('\r' :: '\n' :: rest) := afterMark?_eq_some_iff.mpr rfl
  rw [readBody?_closing hclosing, hmark, Option.map_some, skipLineEnds_lineEnd hrest]

theorem readOpening?_openingLine {name : String} (hname : IsName name)
    {rest : List Char} (hrest : atLine rest = true) :
    readOpening? (Component.openingLine name ++ '\r' :: '\n' :: rest) =
      some (name.toList, rest) := by
  have hread : readKey (name.toList ++ '\r' :: '\n' :: rest) =
      (name.toList, '\r' :: '\n' :: rest) := readKey_append hname.chars rfl
  rw [Component.openingLine_eq hname, List.append_assoc, readOpening?, skipLineEnds_eq_self rfl,
    afterWord?_self]
  simp [hread, skipLineEnds_lineEnd hrest]

theorem readClosing?_openingLine {name : String} (hname : IsName name)
    (rest : List Char) : readClosing? (Component.openingLine name ++ rest) = none := by
  rw [Component.openingLine_eq hname, List.append_assoc, readClosing?, skipLineEnds_eq_self rfl]
  rfl

/-- A component whose body is read as it was written is taken for the next one within another. -/
theorem readBody?_lines {c : Component} (h : c.Legible) {name rest : List Char}
    {found : Body × List Char} (hrest : atLine rest = true)
    (hbody : readBody? c.name.toList (unfolded c.innerLines ++ rest) =
      some (⟨c.reread.properties, c.reread.components⟩, rest))
    (hfound : readBody? name rest = some found) :
    readBody? name (unfolded c.foundLines ++ rest) =
      some ({ found.1 with components := c.reread :: found.1.components }, found.2) := by
  have hname := h.here.1
  have hinner := Component.isLine_of_mem_innerLines h
  have hstart := atLine_unfolded hinner hrest
  have hlines : unfolded c.foundLines ++ rest =
      Component.openingLine c.name ++ '\r' :: '\n' :: (unfolded c.innerLines ++ rest) := by
    simp [Component.foundLines_eq_cons hname]
  have hnext := readBody?_component (readClosing?_openingLine hname _)
    (readOpening?_openingLine hname hstart) (by simp; omega) hbody
    (by simp [skipLineEnds_eq_self hrest]; omega) ((skipLineEnds_eq_self hrest).symm ▸ hfound)
  rw [hlines, hnext, String.ofList_toList, hname.upper_eq]
  obtain ⟨name, properties, components⟩ := c
  rfl

theorem readBody?_components {components : List Component} (h : ∀ d ∈ components, d.Legible)
    (hbody : ∀ d ∈ components, ∀ rest, atLine rest = true →
      readBody? d.name.toList (unfolded d.innerLines ++ rest) =
        some (⟨d.reread.properties, d.reread.components⟩, rest))
    {name rest : List Char} {found : Body × List Char} (hrest : atLine rest = true)
    (hfound : readBody? name rest = some found) :
    readBody? name (unfolded (components.flatMap Component.foundLines) ++ rest) =
      some ({ found.1 with
        components := components.map Component.reread ++ found.1.components }, found.2) := by
  induction components with
  | nil => exact hfound
  | cons d components ih =>
    have hds : ∀ e ∈ components, e.Legible := fun e he => h e (by simp [he])
    have hlines : ∀ l ∈ components.flatMap Component.foundLines, IsLine l := by
      intro l hl
      obtain ⟨e, he, hl⟩ := List.mem_flatMap.mp hl
      exact Component.isLine_of_mem_foundLines (hds e he) l hl
    have hstart := atLine_unfolded hlines hrest
    have hnext := readBody?_lines (h d (by simp)) hstart (hbody d (by simp) _ hstart)
      (ih hds fun e he => hbody e (by simp [he]))
    simpa using hnext

/-- The lines of a component after its first one are read as its body, whatever comes after. -/
theorem readBody?_innerLines {c : Component} (h : c.Legible) {rest : List Char}
    (hrest : atLine rest = true) :
    readBody? c.name.toList (unfolded c.innerLines ++ rest) =
      some (⟨c.reread.properties, c.reread.components⟩, rest) := by
  induction c using Component.tree_induction generalizing rest with
  | step name properties components ih =>
    obtain ⟨hname, hproperties⟩ := h.here
    have hclosing : atLine (Component.closingLine name ++ '\r' :: '\n' :: rest) = true :=
      atLine_append (Component.isLine_closingLine name) _
    have hcomponents := readBody?_components (fun d hd => h.within d hd)
      (fun d hd _ => ih d hd (h.within d hd)) hclosing (readBody?_closingLine hname hrest)
    have hstart : atLine (unfolded (components.flatMap Component.foundLines) ++
        (Component.closingLine name ++ '\r' :: '\n' :: rest)) = true := by
      refine atLine_unfolded ?_ hclosing
      intro l hl
      obtain ⟨d, hd, hl⟩ := List.mem_flatMap.mp hl
      exact Component.isLine_of_mem_foundLines (h.within d hd) l hl
    have hbody := readBody?_contentLines hproperties hstart hcomponents
    rw [Component.reread_mk]
    simpa [Component.innerLines] using hbody

/-- A legible component is read from the content lines that are found in its document. -/
theorem readDocument?_foundLines {c : Component} (h : c.Legible) :
    readDocument? (unfolded c.foundLines) = some c.reread := by
  have hname := h.here.1
  have hinner := Component.isLine_of_mem_innerLines h
  have hend : atLine [] = true := rfl
  have hopening := readOpening?_openingLine hname (atLine_unfolded hinner hend)
  have hbody := readBody?_innerLines h hend
  rw [List.append_nil] at hopening hbody
  rw [Component.foundLines_eq_cons hname, unfolded_cons, readDocument?, hopening]
  simp only [hbody, String.ofList_toList, hname.upper_eq]
  obtain ⟨name, properties, components⟩ := c
  rfl

/-- Reading a document that was written from a legible component. -/
theorem read_toText {c : Component} (h : c.Legible) (hname : c.name = "VCALENDAR") :
    read c.toText = .ok c.reread := by
  have hmark : withoutMark c.write = c.write := by
    obtain ⟨cs, hcs⟩ : ∃ cs, c.write = 'B' :: cs := by
      rw [Component.write_eq_flatMap_lines]
      obtain ⟨name, properties, components⟩ := c
      rw [Component.lines]
      exact ⟨_, rfl⟩
    rw [hcs]
    rfl
  have hroot : c.reread.name = "VCALENDAR" := by
    obtain ⟨name, properties, components⟩ := c
    exact hname
  have hsame : sameName c.reread.name "VCALENDAR" = true := by rw [hroot]; decide
  rw [read, Component.toText, String.toList_ofList, hmark, Component.unfold_write h,
    readDocument?_foundLines h]
  simp [hsame]

end Document

end CalendarRelay
