import CalendarRelay.Rule.Replacement
import CalendarRelay.Rule.Fault
import CalendarRelay.Calendar.Property

namespace CalendarRelay.Rule

inductive OperationKind
  | remove
  | edit
  | editRegex
  deriving DecidableEq

namespace OperationKind

def name : OperationKind → String
  | remove => "remove"
  | edit => "edit"
  | editRegex => "editRegex"

def ofName? (s : String) : Option OperationKind :=
  [remove, edit, editRegex].find? fun k => k.name == s

/-- The length of the array that writes an operation, its name included. -/
def arity : OperationKind → Nat
  | remove => 1
  | edit => 3
  | editRegex => 4

end OperationKind

inductive Operation
  | remove
  | edit (key value : String)
  | editRegex (key : String) (pattern : Pattern) (replacement : Replacement)

namespace Operation

def kind : Operation → OperationKind
  | remove => .remove
  | edit .. => .edit
  | editRegex .. => .editRegex

/-- The event after the operation, or nothing when it has been removed. -/
def apply (r : Record) : Operation → Option Record
  | remove => none
  | edit key value => some (r.modifyNamed key fun p => p.withValue value)
  | editRegex key pattern replacement =>
    some (r.modifyNamed key fun p => p.mapValue (replacement.replaceFirst pattern))

/-- The event after the operations in their order; a removal ends them. -/
def applyAll : List Operation → Record → Option Record
  | [], r => some r
  | op :: rest, r => (op.apply r).bind (applyAll rest)

/-- The arguments of an operation, all of which are texts. -/
def arguments (place : Json.Location) : List Json → Except Fault (List String)
  | [] => .ok []
  | .str s :: rest => (arguments place rest).map (s :: ·)
  | found :: _ => .error ⟨place, .argumentNotString found⟩

/-- The kind that the first item of an operation names. -/
def kindOf? (items : List Json) : Option OperationKind :=
  items.head?.bind fun j => j.string?.bind OperationKind.ofName?

/-- The operation of a kind with its arguments. -/
def ofArguments (place : Json.Location) (found : Json) (kind : OperationKind)
    (args : List String) : Except Fault Operation :=
  match kind, args with
  | .remove, [] => .ok .remove
  | .edit, [key, value] => .ok (.edit key value)
  | .editRegex, [key, source, template] =>
    match Pattern.ofText? source with
    | some p => .ok (.editRegex key p (.ofTemplate p template))
    | none => .error ⟨place, .invalidPattern source⟩
  | kind, args => .error ⟨place, .wrongLength kind.name kind.arity (args.length + 1) found⟩

/-- The operation that a definition gives at the place. -/
def ofJson (place : Json.Location) (j : Json) : Except Fault Operation := do
  let some items := j.items? | .error ⟨place, .operationNotArray j⟩
  let some kind := kindOf? items | .error ⟨place, .unknownOperation j⟩
  if items.length ≠ kind.arity then
    .error ⟨place, .wrongLength kind.name kind.arity items.length j⟩
  else
    let args ← arguments place items.tail
    ofArguments place j kind args

/-- The operations that the items of an array give, the first of which stands at `index`. -/
def ofItems (place : Json.Location) (index : Nat) : List Json → Except Fault (List Operation)
  | [] => .ok []
  | j :: rest => do
    let op ← ofJson (place ++ [.index index]) j
    return op :: (← ofItems place (index + 1) rest)

/-- The operations that a definition gives at the place. -/
def listOfJson (place : Json.Location) (j : Json) : Except Fault (List Operation) :=
  match j.items? with
  | some items => ofItems place 0 items
  | none => .error ⟨place, .operationsNotArray⟩

end Operation

end CalendarRelay.Rule
