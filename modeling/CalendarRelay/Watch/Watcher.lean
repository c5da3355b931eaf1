import CalendarRelay.Watch.Loop
import CalendarRelay.Files
import CalendarRelay.Journal.Basic

namespace CalendarRelay.Watch

/-- The directory that is watched for a path, and the name whose changes count; without a name
all do. -/
structure Scope where
  directory : String
  name : Option String
  deriving DecidableEq

namespace Scope

/-- The scope of a path. A path that ends with two dots names no file. -/
def ofPath (path : String) : Scope :=
  let root := if path.toList.head? = some '/' then "/" else ""
  let parts := Place.parts path
  match parts.getLast? with
  | none => ⟨if root = "" then "." else root, none⟩
  | some last =>
    let before := root ++ "/".intercalate parts.dropLast
    ⟨if before = "" then "." else before, if last = ".." then none else some last⟩

/-- Whether a change at a place counts. -/
def concerns (s : Scope) (place : Place) : Bool :=
  place.dropLast == Place.ofPath s.directory && s.name.all fun n => place.getLast? == some n

end Scope

/-- A watcher of a file with its loop, if one is running. Once it has been stopped it stays so,
even if it is started again. -/
structure Watcher where
  path : String
  loop : Option Loop := none
  stopped : Bool := false

namespace Watcher

def scope (w : Watcher) : Scope := .ofPath w.path

/-- Starts to watch; the directory has to be there. -/
def start (w : Watcher) (fs : Files) : Journaled (Except String Watcher) := do
  if (fs.get w.scope.directory).isMissing then
    return .error ("启动文件监听失败: " ++ w.scope.directory)
  else
    Journaled.note (.watchStarted w.path)
    if w.stopped then Journaled.note .watchStopped
    return .ok { w with loop := if w.stopped then none else some {} }

def stop (w : Watcher) : Journaled Watcher := do
  if w.loop.isSome then Journaled.note .watchStopped
  return { w with loop := none, stopped := true }

/-- The watcher after changes at some places have settled, and how often it reloads. -/
def settle (w : Watcher) (touched : List Place) : Watcher × Nat :=
  match w.loop with
  | none => (w, 0)
  | some l =>
    let changed := (touched.filter w.scope.concerns).foldl (fun l _ => l.change.signal) l
    let (l, reloads) := changed.settle
    ({ w with loop := some l }, reloads)

end Watcher

end CalendarRelay.Watch
