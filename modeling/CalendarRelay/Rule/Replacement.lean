import CalendarRelay.Pattern.Basic
import CalendarRelay.Text.Ascii
import CalendarRelay.Text.Scan

namespace CalendarRelay.Rule

/-- A piece of a template. `$1` to `$99` stand for groups of the pattern, `$<name>` for a named one,
`$&` for the match, and a backquote or an apostrophe after a dollar for the text around it. -/
inductive Piece
  | literal (text : String)
  | group (index : Nat)
  | named (name : String)
  | matched
  | before
  | after
  deriving DecidableEq

/-- A template as the pieces that it consists of. -/
abbrev Replacement := List Piece

namespace Replacement

open Text

/-- The group that one or two digits refer to, if the pattern has it: of two digits both if it
has a group of that number, or else the first alone. -/
def groupReference? (groups : Nat) (digit : Char) (cs : List Char) : Option (Piece × List Char) :=
  let exists? (n : Nat) : Bool := 1 ≤ n && n ≤ groups
  let first := digitValue digit
  let one : Option (Piece × List Char) :=
    if exists? first then some (.group first, cs) else none
  match cs with
  | c :: rest =>
    let two := first * 10 + digitValue c
    if isDigit c && exists? two then some (.group two, rest) else one
  | [] => one

theorem length_of_groupReference? {groups : Nat} {digit : Char} {cs rest : List Char}
    {piece : Piece} (h : groupReference? groups digit cs = some (piece, rest)) :
    rest.length ≤ cs.length := by
  cases cs <;> grind [groupReference?]

/-- What a dollar and the text after it refer to, and the text after the reference. -/
def reference? (groups : Nat) (hasNames : Bool) : List Char → Option (Piece × List Char)
  | '&' :: cs => some (.matched, cs)
  | '\x60' :: cs => some (.before, cs)
  | '\'' :: cs => some (.after, cs)
  | '<' :: cs =>
    if hasNames then
      (cutAt? ['>'] cs).map fun (name, rest) => (.named (String.ofList name), rest)
    else none
  | c :: cs => if isDigit c then groupReference? groups c cs else none
  | [] => none

theorem length_of_reference? {groups : Nat} {hasNames : Bool} {cs rest : List Char}
    {piece : Piece} (h : reference? groups hasNames cs = some (piece, rest)) :
    rest.length < cs.length := by
  unfold reference? at h
  split at h
  · simp_all
  · simp_all
  · simp_all
  · split at h
    · obtain ⟨⟨name, after⟩, hcut, hpair⟩ := Option.map_eq_some_iff.mp h
      have hcs := eq_of_cutAt? hcut
      have hrest : after = rest := (Prod.mk.inj hpair).2
      subst hcs hrest
      simp
      omega
    · simp at h
  · split at h
    · have hle := length_of_groupReference? h
      exact Nat.lt_succ_of_le hle
    · simp at h
  · simp at h

/-- Literal text as a piece of its own; where there is none there is no piece. -/
def literalPiece (text : List Char) : List Piece :=
  if text = [] then [] else [.literal (String.ofList text)]

/-- The pieces of a template for a pattern with the given number of groups. `literal` is the text
read so far that stands for itself; it becomes a piece when a reference or the end comes. -/
def pieces (groups : Nat) (hasNames : Bool) (literal template : List Char) : List Piece :=
  match template with
  | [] => literalPiece literal
  | '$' :: '$' :: cs => pieces groups hasNames (literal ++ ['$']) cs
  | '$' :: cs =>
    match h : reference? groups hasNames cs with
    | some (piece, rest) =>
      have := length_of_reference? h
      literalPiece literal ++ piece :: pieces groups hasNames [] rest
    | none => pieces groups hasNames (literal ++ ['$']) cs
  | c :: cs => pieces groups hasNames (literal ++ [c]) cs
termination_by template.length
decreasing_by all_goals simp_all only [List.length_cons]; omega

def ofTemplate (p : Pattern) (template : String) : Replacement :=
  pieces p.groupCount (p.groups.any Option.isSome) [] template.toList

/-- The part of the text that a group has matched; nothing for a group that took no part. -/
def groupText (m : Match) (text : List Char) (index : Nat) : List Char :=
  match m.groups[index - 1]? with
  | some (some span) => span.slice text
  | _ => []

/-- What a piece stands for after a match. -/
def expand (p : Pattern) (m : Match) (text : List Char) : Piece → List Char
  | .literal s => s.toList
  | .group index => groupText m text index
  | .named name =>
    match p.groupNamed? name with
    | some index => groupText m text index
    | none => []
  | .matched => m.whole.slice text
  | .before => text.take m.whole.start
  | .after => text.drop m.whole.stop

/-- The text with the first match of the pattern replaced. -/
def replaceFirst (r : Replacement) (p : Pattern) (text : String) : String :=
  let cs := text.toList
  match p.find? cs with
  | none => text
  | some m =>
    String.ofList
      (cs.take m.whole.start ++ r.flatMap (expand p m cs) ++ cs.drop m.whole.stop)

end Replacement

end CalendarRelay.Rule
