import CalendarRelay.Journal.Notice
import CalendarRelay.Journal.Counter

namespace CalendarRelay

inductive Entry
  | note (n : Notice)
  | fetch (url : String)
  | count (c : Counter) (amount : Nat)

/-- A value and the journal of the computation that gave it. -/
structure Journaled (α : Type) where
  value : α
  journal : List Entry := []

namespace Journaled

instance : Monad Journaled where
  pure a := ⟨a, []⟩
  bind x f := ⟨(f x.value).value, x.journal ++ (f x.value).journal⟩

@[simp] theorem value_pure (a : α) : (pure a : Journaled α).value = a := rfl

@[simp] theorem journal_pure (a : α) : (pure a : Journaled α).journal = [] := rfl

@[simp] theorem value_bind (x : Journaled α) (f : α → Journaled β) :
    (x >>= f).value = (f x.value).value := rfl

@[simp] theorem journal_bind (x : Journaled α) (f : α → Journaled β) :
    (x >>= f).journal = x.journal ++ (f x.value).journal := rfl

@[simp] theorem value_map (g : α → β) (x : Journaled α) : (g <$> x).value = g x.value := rfl

@[simp] theorem journal_map (g : α → β) (x : Journaled α) : (g <$> x).journal = x.journal :=
  List.append_nil x.journal

@[ext] theorem ext {x y : Journaled α} (hv : x.value = y.value) (hj : x.journal = y.journal) :
    x = y := by
  cases x; cases y; simp_all

instance : LawfulMonad Journaled := LawfulMonad.mk' _
  (fun x => ext rfl (by simp))
  (fun a f => ext rfl (by simp))
  (fun x f g => ext rfl (by simp))

/-- Writes one entry into the journal. -/
def tell (e : Entry) : Journaled Unit := ⟨(), [e]⟩

def note (n : Notice) : Journaled Unit := tell (.note n)

def count (c : Counter) (amount : Nat := 1) : Journaled Unit := tell (.count c amount)

@[simp] theorem value_tell (e : Entry) : (tell e).value = () := rfl

@[simp] theorem journal_tell (e : Entry) : (tell e).journal = [e] := rfl

@[simp] theorem value_note (n : Notice) : (note n).value = () := rfl

@[simp] theorem journal_note (n : Notice) : (note n).journal = [.note n] := rfl

@[simp] theorem value_count (c : Counter) (n : Nat) : (count c n).value = () := rfl

@[simp] theorem journal_count (c : Counter) (n : Nat) : (count c n).journal = [.count c n] := rfl

end Journaled

namespace Entry

def notices (journal : List Entry) : List Notice :=
  journal.filterMap fun
    | .note n => some n
    | _ => none

/-- The feeds asked for, in order. -/
def fetches (journal : List Entry) : List String :=
  journal.filterMap fun
    | .fetch url => some url
    | _ => none

/-- The moves of counters, in order. -/
def moves (journal : List Entry) : List (Counter × Nat) :=
  journal.filterMap fun
    | .count c n => some (c, n)
    | _ => none

/-- The counters that a journal moves, each once, in the order of their first move. -/
def counters (journal : List Entry) : List Counter :=
  (journal.filterMap fun
    | .count c _ => some c
    | _ => none).eraseDups

/-- How far a journal moves a counter. -/
def total : List Entry → Counter → Nat
  | [], _ => 0
  | .count c' n :: rest, c => (if c' = c then n else 0) + total rest c
  | _ :: rest, c => total rest c

@[simp] theorem notices_append (a b : List Entry) : notices (a ++ b) = notices a ++ notices b :=
  List.filterMap_append

@[simp] theorem fetches_append (a b : List Entry) : fetches (a ++ b) = fetches a ++ fetches b :=
  List.filterMap_append

@[simp] theorem moves_append (a b : List Entry) : moves (a ++ b) = moves a ++ moves b :=
  List.filterMap_append

@[simp] theorem total_append (a b : List Entry) (c : Counter) :
    total (a ++ b) c = total a c + total b c := by
  induction a with
  | nil => simp [total]
  | cons e rest ih => cases e <;> simp [total, ih, Nat.add_assoc]

end Entry

end CalendarRelay
