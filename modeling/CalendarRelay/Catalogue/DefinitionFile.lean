import CalendarRelay.Catalogue.Store
import CalendarRelay.Json.Reader
import CalendarRelay.Files

namespace CalendarRelay

namespace DefinitionFile

/-- Why a file of definitions cannot be used. -/
inductive Fault
  | unreadable (path reason : String)
  | notJson (path : String)
  | refused (fault : Definition.Fault)

def Fault.text : Fault → String
  | unreadable path reason => "读取 " ++ path ++ " 失败: " ++ reason
  | notJson path => "解析 " ++ path ++ " 失败: 不是有效的 JSON"
  | refused fault => fault.message

/-- The fault as it is reported. -/
def Fault.message (f : Fault) : String := "日历配置加载失败: " ++ f.text

/-- The text of a file. -/
def readText (path : String) : FileState → Except Fault String
  | .missing => .error (.unreadable path "文件不存在")
  | .directory => .error (.unreadable path "是一个目录")
  | .content bytes =>
    match String.fromUTF8? bytes with
    | some text => .ok text
    | none => .error (.unreadable path "不是有效的 UTF-8")

/-- The document in a file. -/
def readDocument (path : String) (file : FileState) : Except Fault Json :=
  (readText path file).bind fun text =>
    match Json.ofText? text with
    | some document => .ok document
    | none => .error (.notJson path)

/-- The store after reloading the document in a file. -/
def reload (path : String) (file : FileState) (s : Store) :
    Journaled (Except Fault (Store × Report)) :=
  match readDocument path file with
  | .error e => pure (.error e)
  | .ok document => do return (← s.reload document).mapError .refused

/-- What is noted and counted of a load. -/
def conclude : Except Fault (Store × Report) → Journaled Unit
  | .ok (s, report) => do
    if report.isClean then
      Journaled.count (.configReloads "ok")
      Journaled.note (.definitionsLoaded s.snapshot.size report.loaded.length
        report.removed.length)
    else
      Journaled.count (.configReloads "partial")
      Journaled.note (.definitionsPartlyInvalid s.snapshot.size report.failed.length
        report.retained)
  | .error e => do
    Journaled.count (.configReloads "error")
    Journaled.note (.definitionsRefused e.message)

/-- Loads a file into a store: the store after it and the report, or why the file was refused. -/
def load (path : String) (file : FileState) (s : Store) :
    Journaled (Except Fault (Store × Report)) := do
  let result ← reload path file s
  conclude result
  return result

/-- The store after a load, which is the one before if the load failed. -/
def after (s : Store) : Except Fault (Store × Report) → Store
  | .ok (s, _) => s
  | .error _ => s

/-- Loads a file that has changed. Who watches it hears no more than whether that went well. -/
def refresh (path : String) (file : FileState) (s : Store) :
    Journaled (Except Fault Unit × Store) := do
  let result ← load path file s
  return (result.map fun _ => (), after s result)

end DefinitionFile

end CalendarRelay
