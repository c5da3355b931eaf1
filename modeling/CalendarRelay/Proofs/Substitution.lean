import CalendarRelay.Proofs.Finding

namespace CalendarRelay.Rule.Replacement

open Text

/-- What a dollar stands for together with the beginning of the text after it, and the text behind
that: `Refers f after meaning rest`. Groups are counted from one, and one that has matched nothing
stands for nothing. -/
inductive Refers (f : Finding) : List Char → List Char → List Char → Prop
  | dollar (rest : List Char) : Refers f ('$' :: rest) ['$'] rest
  | matched (rest : List Char) : Refers f ('&' :: rest) f.matched rest
  | before (rest : List Char) : Refers f ('\x60' :: rest) f.before rest
  | after (rest : List Char) : Refers f ('\'' :: rest) f.after rest
  | twoDigits {c d : Char} {k : Nat} {group : Option String × Option (List Char)}
    (rest : List Char) (hc : isDigit c = true) (hd : isDigit d = true)
    (hnumber : 10 * digitValue c + digitValue d = k + 1) (hgroup : f.groups[k]? = some group) :
    Refers f (c :: d :: rest) (group.2.getD []) rest
  | oneDigit {c : Char} {k : Nat} {group : Option String × Option (List Char)}
    (rest : List Char) (hc : isDigit c = true) (hnumber : digitValue c = k + 1)
    (hgroup : f.groups[k]? = some group)
    (hsingle : ∀ d ∈ rest.head?, isDigit d = true →
      ¬ f.HasGroup (10 * digitValue c + digitValue d)) :
    Refers f (c :: rest) (group.2.getD []) rest
  | named {name : List Char} {earlier later : List (Option String × Option (List Char))}
    {part : Option (List Char)} (rest : List Char) (hname : '>' ∉ name)
    (hgroups : f.groups = earlier ++ (some (String.ofList name), part) :: later)
    (hfirst : ∀ group ∈ earlier, group.1 ≠ some (String.ofList name)) :
    Refers f ('<' :: (name ++ '>' :: rest)) (part.getD []) rest
  | unknown {name : List Char} (rest : List Char) (hnames : f.HasNames) (hname : '>' ∉ name)
    (hgroup : ∀ group ∈ f.groups, group.1 ≠ some (String.ofList name)) :
    Refers f ('<' :: (name ++ '>' :: rest)) [] rest

/-- What a template stands for. A dollar that refers to nothing stands for itself, and so does
every other character. -/
inductive StandsFor (f : Finding) : List Char → List Char → Prop
  | nil : StandsFor f [] []
  | char {c : Char} {rest out : List Char} (hc : c ≠ '$') (hrest : StandsFor f rest out) :
    StandsFor f (c :: rest) (c :: out)
  | reference {after meaning rest out : List Char} (href : Refers f after meaning rest)
    (hrest : StandsFor f rest out) : StandsFor f ('$' :: after) (meaning ++ out)
  | lone {after out : List Char} (hlone : ∀ meaning rest, ¬ Refers f after meaning rest)
    (hrest : StandsFor f after out) : StandsFor f ('$' :: after) ('$' :: out)

/-- The first mark is where a text is cut that has none before it. -/
theorem cutAt?_append {c : Char} {before : List Char} (h : c ∉ before) (after : List Char) :
    cutAt? [c] (before ++ c :: after) = some (before, after) := by
  induction before with
  | nil => simp [cutAt?, afterMark?]
  | cons d before ih =>
    obtain ⟨hd, hbefore⟩ := List.ne_and_not_mem_of_not_mem_cons h
    rw [List.cons_append, cutAt?, ih hbefore]
    simp [afterMark?, hd]

theorem not_mem_of_cutAt? {c : Char} {cs before after : List Char}
    (h : cutAt? [c] cs = some (before, after)) : c ∉ before := by
  induction cs generalizing before after with
  | nil => simp [cutAt?] at h
  | cons d cs ih =>
    rw [cutAt?] at h
    by_cases hd : c = d
    · have hbefore : [] = before := by simpa [afterMark?, hd] using congrArg (Option.map Prod.fst) h
      simp [← hbefore]
    · have hmark : afterMark? [c] (d :: cs) = none := by simp [afterMark?, hd]
      rw [hmark] at h
      obtain ⟨⟨before', after'⟩, hcut, hpair⟩ := Option.map_eq_some_iff.mp h
      have hbefore : d :: before' = before := (Prod.mk.inj hpair).1
      rw [← hbefore, List.mem_cons]
      exact not_or.mpr ⟨hd, ih hcut⟩

section

variable {groups : Nat} {hasNames : Bool} {c : Char} {cs rest : List Char} {piece : Piece}

theorem groupReference?_eq_some_iff : groupReference? groups c cs = some (piece, rest) ↔
    (∃ d, cs = d :: rest ∧ isDigit d = true ∧ (1 ≤ 10 * digitValue c + digitValue d ∧
        10 * digitValue c + digitValue d ≤ groups) ∧
          piece = .group (10 * digitValue c + digitValue d)) ∨
      (∀ d ∈ cs.head?, isDigit d = true → ¬ (1 ≤ 10 * digitValue c + digitValue d ∧
        10 * digitValue c + digitValue d ≤ groups)) ∧
        (1 ≤ digitValue c ∧ digitValue c ≤ groups) ∧ cs = rest ∧ piece = .group (digitValue c) := by
  cases cs with
  | nil => grind [groupReference?]
  | cons d tail => grind [groupReference?]

theorem reference?_digit (hc : isDigit c = true) :
    reference? groups hasNames (c :: cs) = groupReference? groups c cs := by
  rw [reference?, if_pos hc]
  all_goals
    rintro rfl
    exact absurd hc (by decide)

theorem reference?_dollar : reference? groups hasNames ('$' :: cs) = none := by
  rw [reference?, if_neg (by decide)]
  all_goals decide

end

section

variable {f : Finding} {p : Pattern} {m : Match} {text : List Char}

theorem Finding.Tells.exists_group (h : f.Tells p m text) {n : Nat} (hn : 1 ≤ n)
    (hcount : n ≤ p.groupCount) : ∃ k group, n = k + 1 ∧ f.groups[k]? = some group := by
  obtain ⟨k, rfl⟩ := Nat.exists_eq_add_of_le' hn
  exact ⟨k, _, rfl, List.getElem?_eq_getElem (h.groupCount_eq ▸ hcount)⟩

theorem Finding.Tells.number_le (h : f.Tells p m text) {n k : Nat}
    {group : Option String × Option (List Char)} (hn : n = k + 1)
    (hgroup : f.groups[k]? = some group) : 1 ≤ n ∧ n ≤ p.groupCount := by
  obtain ⟨hk, -⟩ := List.getElem?_eq_some_iff.mp hgroup
  rw [h.groupCount_eq]
  omega

theorem Refers.reference? (h : f.Tells p m text) {after meaning rest : List Char}
    (href : Refers f after meaning rest) : after = '$' :: rest ∧ meaning = ['$'] ∨ ∃ piece,
      reference? p.groupCount (p.groups.any Option.isSome) after = some (piece, rest) ∧
        expand p m text piece = meaning := by
  cases href with
  | dollar => exact .inl ⟨rfl, rfl⟩
  | matched => exact .inr ⟨.matched, rfl, h.slice_whole⟩
  | before => exact .inr ⟨.before, rfl, h.take_start⟩
  | after => exact .inr ⟨.after, rfl, h.drop_stop⟩
  | @twoDigits c d k group _ hc hd hnumber hgroup =>
    refine .inr ⟨.group (k + 1), ?_, h.groupText_eq hgroup⟩
    rw [reference?_digit hc]
    exact groupReference?_eq_some_iff.mpr
      (.inl ⟨_, rfl, hd, h.number_le hnumber hgroup, hnumber ▸ rfl⟩)
  | @oneDigit c k group _ hc hnumber hgroup hsingle =>
    refine .inr ⟨.group (k + 1), ?_, h.groupText_eq hgroup⟩
    rw [reference?_digit hc]
    refine groupReference?_eq_some_iff.mpr
      (.inr ⟨?_, h.number_le hnumber hgroup, rfl, hnumber ▸ rfl⟩)
    intro d hd hdigit
    rw [h.groupCount_eq]
    exact hsingle d hd hdigit
  | @named name earlier later part _ hname hgroups hfirst =>
    refine .inr ⟨.named (String.ofList name), ?_, ?_⟩
    · have hnames : f.HasNames := ⟨_, hgroups ▸ List.mem_append_right _ List.mem_cons_self, rfl⟩
      rw [Replacement.reference?, if_pos (h.any_isSome_iff.mpr hnames), cutAt?_append hname]
      rfl
    · have hgroup : f.groups[earlier.length]? = some (some (String.ofList name), part) := by
        simp [hgroups]
      rw [expand, h.groupNamed?_of_first hgroups hfirst]
      exact h.groupText_eq hgroup
  | @unknown name _ hnames hname hgroup =>
    refine .inr ⟨.named (String.ofList name), ?_, ?_⟩
    · rw [Replacement.reference?, if_pos (h.any_isSome_iff.mpr hnames), cutAt?_append hname]
      rfl
    · rw [expand, h.groupNamed?_eq_none_iff.mpr hgroup]

theorem refers_of_reference? (h : f.Tells p m text) {after rest : List Char} {piece : Piece}
    (hpiece : reference? p.groupCount (p.groups.any Option.isSome) after = some (piece, rest)) :
    Refers f after (expand p m text piece) rest := by
  unfold reference? at hpiece
  split at hpiece
  · obtain ⟨rfl, rfl⟩ := Prod.mk.inj (Option.some.inj hpiece)
    rw [expand, h.slice_whole]
    exact .matched _
  · obtain ⟨rfl, rfl⟩ := Prod.mk.inj (Option.some.inj hpiece)
    rw [expand, h.take_start]
    exact .before _
  · obtain ⟨rfl, rfl⟩ := Prod.mk.inj (Option.some.inj hpiece)
    rw [expand, h.drop_stop]
    exact .after _
  · split at hpiece
    · rename_i hany
      have hnames := h.any_isSome_iff.mp hany
      obtain ⟨⟨name, rest'⟩, hcut, hpair⟩ := Option.map_eq_some_iff.mp hpiece
      obtain ⟨rfl, rfl⟩ := Prod.mk.inj hpair
      have hname := not_mem_of_cutAt? hcut
      rw [eq_of_cutAt? hcut, expand]
      cases hgroup : p.groupNamed? (String.ofList name) with
      | none => exact .unknown _ hnames hname (h.groupNamed?_eq_none_iff.mp hgroup)
      | some n =>
        obtain ⟨earlier, part, later, hgroups, hfirst, rfl⟩ := h.exists_of_groupNamed? hgroup
        have hpart : f.groups[earlier.length]? = some (some (String.ofList name), part) := by
          simp [hgroups]
        simp only [h.groupText_eq hpart]
        exact .named _ hname hgroups hfirst
    · cases hpiece
  · split at hpiece
    · rename_i hc
      rcases groupReference?_eq_some_iff.mp hpiece with ⟨d, rfl, hd, ⟨hn, hcount⟩, rfl⟩ |
        ⟨hsingle, ⟨hn, hcount⟩, rfl, rfl⟩
      · obtain ⟨k, group, hnumber, hgroup⟩ := h.exists_group hn hcount
        rw [expand, hnumber, h.groupText_eq hgroup]
        exact .twoDigits _ hc hd hnumber hgroup
      · obtain ⟨k, group, hnumber, hgroup⟩ := h.exists_group hn hcount
        rw [expand, hnumber, h.groupText_eq hgroup]
        refine .oneDigit _ hc hnumber hgroup fun d hd hdigit => ?_
        rw [Finding.HasGroup, ← h.groupCount_eq]
        exact hsingle d hd hdigit
    · cases hpiece
  · cases hpiece

/-- A dollar stands for one thing at most. -/
theorem Refers.unique (h : f.Tells p m text) {after meaning meaning' rest rest' : List Char}
    (href : Refers f after meaning rest) (href' : Refers f after meaning' rest') :
    meaning = meaning' ∧ rest = rest' := by
  rcases href.reference? h with ⟨hafter, hmeaning⟩ | ⟨piece, hpiece, hmeaning⟩
  · subst hafter
    rcases href'.reference? h with ⟨hafter', hmeaning'⟩ | ⟨piece', hpiece', -⟩
    · exact ⟨hmeaning.trans hmeaning'.symm, (List.cons.inj hafter').2⟩
    · rw [reference?_dollar] at hpiece'
      cases hpiece'
  · rcases href'.reference? h with ⟨hafter', -⟩ | ⟨piece', hpiece', hmeaning'⟩
    · rw [hafter', reference?_dollar] at hpiece
      cases hpiece
    · obtain ⟨hsame, hrest⟩ := Prod.mk.inj (Option.some.inj (hpiece.symm.trans hpiece'))
      exact ⟨hmeaning.symm.trans (hsame ▸ hmeaning'), hrest⟩

/-- A template stands for one text only. -/
theorem StandsFor.unique (h : f.Tells p m text) {template out out' : List Char}
    (hout : StandsFor f template out) (hout' : StandsFor f template out') : out = out' := by
  induction hout generalizing out' with
  | nil =>
    cases hout'
    rfl
  | char hc hrest ih =>
    cases hout' with
    | char _ hrest' => rw [ih hrest']
    | reference => exact absurd rfl hc
    | lone => exact absurd rfl hc
  | reference href hrest ih =>
    cases hout' with
    | char hc => exact absurd rfl hc
    | reference href' hrest' =>
      obtain ⟨hmeaning, hsame⟩ := href.unique h href'
      subst hmeaning hsame
      rw [ih hrest']
    | lone hlone => exact absurd href (hlone _ _)
  | lone hlone hrest ih =>
    cases hout' with
    | char hc => exact absurd rfl hc
    | reference href' => exact absurd href' (hlone _ _)
    | lone _ hrest' => rw [ih hrest']

theorem flatMap_expand_literalPiece (literal : List Char) :
    (literalPiece literal).flatMap (expand p m text) = literal := by
  rw [literalPiece]
  split
  · rename_i hempty
    rw [hempty, List.flatMap_nil]
  · rw [List.flatMap_singleton, expand, String.toList_ofList]

/-- The pieces of a template say what the template stands for, after the text that has been read
and stands for itself. -/
theorem exists_standsFor_pieces (h : f.Tells p m text) (literal template : List Char) :
    ∃ out, StandsFor f template out ∧
      (pieces p.groupCount (p.groups.any Option.isSome) literal template).flatMap
        (expand p m text) = literal ++ out := by
  fun_induction pieces p.groupCount (p.groups.any Option.isSome) literal template with
  | case1 literal =>
    refine ⟨[], .nil, ?_⟩
    rw [flatMap_expand_literalPiece, List.append_nil]
  | case2 literal cs ih =>
    obtain ⟨out, hout, hpieces⟩ := ih
    refine ⟨_, .reference (.dollar cs) hout, ?_⟩
    rw [hpieces, List.append_assoc]
  | case3 literal cs hne piece rest href hlt ih =>
    obtain ⟨out, hout, hpieces⟩ := ih
    refine ⟨_, .reference (refers_of_reference? h href) hout, ?_⟩
    rw [List.flatMap_append, List.flatMap_cons, flatMap_expand_literalPiece, hpieces,
      List.nil_append]
  | case4 literal cs hne hnone ih =>
    obtain ⟨out, hout, hpieces⟩ := ih
    refine ⟨_, .lone ?_ hout, ?_⟩
    · intro meaning rest href
      rcases href.reference? h with ⟨hcs, -⟩ | ⟨piece, hpiece, -⟩
      · exact hne rest hcs
      · rw [hnone] at hpiece
        cases hpiece
    · rw [hpieces, List.append_assoc, List.singleton_append]
  | case5 literal c cs hne hc ih =>
    obtain ⟨out, hout, hpieces⟩ := ih
    refine ⟨_, .char hc hout, ?_⟩
    rw [hpieces, List.append_assoc, List.singleton_append]

end

/-- Replacing leaves a text alone that the pattern does not match. Any other text is cut into what
is before the first match, the match and what is after it, with the groups of the match as parts of
the text, and what the template stands for takes the place of the match. The template stands for
one text only, and does so to its end. -/
theorem replaceFirst_ofTemplate {source : String} {p : Pattern}
    (hp : Pattern.ofText? source = some p) (template text : String) :
    (p.find? text.toList = none → replaceFirst (ofTemplate p template) p text = text) ∧
    ∀ m, p.find? text.toList = some m →
      (∃ f : Finding, f.Tells p m text.toList) ∧
      ∀ f : Finding, f.Tells p m text.toList →
        ∃ out, StandsFor f template.toList out ∧
          (∀ other, StandsFor f template.toList other → other = out) ∧
          replaceFirst (ofTemplate p template) p text =
            String.ofList (f.before ++ out ++ f.after) := by
  constructor
  · intro hnone
    rw [replaceFirst, hnone]
  · intro m hm
    refine ⟨Finding.exists_tells hp hm, fun f hf => ?_⟩
    obtain ⟨out, hout, hpieces⟩ := exists_standsFor_pieces hf [] template.toList
    refine ⟨out, hout, fun other hother => hother.unique hf hout, ?_⟩
    rw [List.nil_append] at hpieces
    simp only [replaceFirst, hm, ofTemplate, hpieces, hf.take_start, hf.drop_stop]

/-- A date, or a letter. -/
def dateSource : String := "(?<_day>[0-9]+)\\.([0-9]+)|(x)"

def dateTemplate : String := "$2/$<_day>$3$<who> $10 $4 ($`|$&|$')$$"

/-- What is found of a date. -/
def dateFound : Finding where
  before := "Due ".toList
  matched := "24.12".toList
  after := " noon".toList
  groups := [(some "_day", some "24".toList), (none, some "12".toList), (none, none)]

/-- The third group takes no part, no group is called `who`, and there is neither a tenth nor a
fourth one. -/
theorem replaceFirst_date : ∃ p m,
    Pattern.ofText? dateSource = some p ∧
    p.find? "Due 24.12 noon".toList = some m ∧
    dateFound.Tells p m "Due 24.12 noon".toList ∧
    StandsFor dateFound dateTemplate.toList "12/24 240 $4 (Due |24.12| noon)$".toList ∧
    replaceFirst (ofTemplate p dateTemplate) p "Due 24.12 noon" =
      "Due 12/24 240 $4 (Due |24.12| noon)$ noon" := by
  have hread : ∃ p, Pattern.ofText? dateSource = some p :=
    Option.isSome_iff_exists.mp (by decide +kernel)
  have hfind : (Pattern.ofText? dateSource).map (·.find? "Due 24.12 noon".toList) =
      some (some ⟨⟨4, 9⟩, [some ⟨4, 6⟩, some ⟨7, 9⟩, none]⟩) := by decide +kernel
  have hgroups : (Pattern.ofText? dateSource).map Pattern.groups =
      some [some "_day", none, none] := by decide +kernel
  have hreplaced : (Pattern.ofText? dateSource).map (fun p =>
      replaceFirst (ofTemplate p dateTemplate) p "Due 24.12 noon") =
        some "Due 12/24 240 $4 (Due |24.12| noon)$ noon" := by decide +kernel
  obtain ⟨p, hp⟩ := hread
  rw [hp, Option.map_some, Option.some.injEq] at hfind hgroups hreplaced
  have hday : Covers "Due 24.12 noon".toList (some ⟨4, 6⟩) (some "24".toList) :=
    .part "Due ".toList "24".toList ".12 noon".toList (by decide)
  have hmonth : Covers "Due 24.12 noon".toList (some ⟨7, 9⟩) (some "12".toList) :=
    .part "Due 24.".toList "12".toList " noon".toList (by decide)
  have htells : dateFound.Tells p ⟨⟨4, 9⟩, [some ⟨4, 6⟩, some ⟨7, 9⟩, none]⟩
      "Due 24.12 noon".toList :=
    ⟨by decide, by decide, hgroups.symm, .cons hday (.cons hmonth (.cons .absent .nil))⟩
  obtain ⟨out, hout, -, hout'⟩ := ((replaceFirst_ofTemplate hp _ _).2 _ hfind).2 dateFound htells
  have hsame : dateFound.before ++ out ++ dateFound.after =
      dateFound.before ++ "12/24 240 $4 (Due |24.12| noon)$".toList ++ dateFound.after := by
    rw [← String.ofList_inj, ← hout', hreplaced]
    decide
  rw [List.append_cancel_left (List.append_cancel_right hsame)] at hout
  exact ⟨p, _, hp, hfind, htells, hout, hreplaced⟩

example : pieces 2 true [] "No. $2.$<day>$10$$1$3$<".toList =
    [.literal "No. ", .group 2, .literal ".", .named "day", .group 1, .literal "0$1$3$<"] := by
  cbv

end CalendarRelay.Rule.Replacement
