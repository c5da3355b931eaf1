import CalendarRelay.Calendar.Reader
import CalendarRelay.Journal.Basic
import CalendarRelay.Json.Printer

namespace CalendarRelay.Gateway

/-- An answer to a request: its status, its headers by name, and its body. -/
structure Response where
  status : Nat
  headers : List (String × String) := []
  body : String := ""
  deriving DecidableEq

/-- The response as it is sent, without the name of its protocol. -/
def Response.render (r : Response) : String :=
  toString r.status ++ "\r\n" ++
    String.join (r.headers.map fun h => h.1 ++ ": " ++ h.2 ++ "\r\n") ++ "\r\n" ++ r.body

def Response.contentType (type : String) (status : Nat) (body : String) : Response :=
  { status, headers := [("content-type", type)], body }

def Response.plain : Nat → String → Response := .contentType "text/plain; charset=utf-8"

def Response.json (status : Nat) (body : Json) : Response :=
  .contentType "application/json" status body.render

inductive Fault
  | notFound (name : String)
  | feedRefused (url : String) (status : Nat) (body : String)
  | unreachable (detail : String)
  | document (fault : Document.Fault)
  | config (text : String)
  | internal (text : String)
  deriving DecidableEq

namespace Fault

def message : Fault → String
  | notFound name => "日历不存在: " ++ name
  | feedRefused _ status body =>
    "Could not get original ics data. Got response code " ++ toString status ++
      " and body: " ++ body
  | unreachable detail => "抓取上游日历失败: " ++ detail
  | document fault => "日历文档解析失败: " ++ fault.message
  | config text => "日历配置加载失败: " ++ text
  | internal text => "内部错误: " ++ text

def status : Fault → Nat
  | notFound _ => 404
  | _ => 500

/-- The name of the kind of fault in notices. -/
def code : Fault → String
  | notFound _ => "NOT_FOUND"
  | feedRefused .. => "UPSTREAM_STATUS"
  | unreachable _ => "FETCH_ERROR"
  | document _ => "CODEC_ERROR"
  | config _ => "CONFIG_ERROR"
  | internal _ => "INTERNAL_ERROR"

/-- The response that tells of a fault. -/
def respond (f : Fault) : Journaled Response :=
  match f with
  | notFound name => do
    Journaled.note (.calendarUnknown name)
    return .json f.status (.str "Not found.")
  | feedRefused url status _ => do
    Journaled.note (.feedRefused url status)
    return .plain f.status f.message
  | _ => do
    Journaled.note (.requestFailed f.message f.code)
    return .plain f.status f.message

end Fault

/-- What gives the text behind an address, or tells why it cannot. -/
abbrev Fetcher := String → Except Fault String

/-- Asks for the text behind an address. -/
def ask (fetch : Fetcher) (url : String) : Journaled (Except Fault String) := do
  Journaled.tell (.fetch url)
  return fetch url

/-- Asks for the calendar behind an address. -/
def askCalendar (fetch : Fetcher) (url : String) : Journaled (Except Fault Component) := do
  return (← ask fetch url).bind fun text => (Document.read text).mapError .document

end CalendarRelay.Gateway
