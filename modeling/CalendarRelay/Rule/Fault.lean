import CalendarRelay.Json.Printer

namespace CalendarRelay.Rule

inductive Cause
  | calendarNotObject
  | missing (field : String)
  | unknownType (found : Json)
  | invalidUrl (found : Json)
  | rulesNotArray
  | ruleNotObject
  | urlsNotArray
  | urlsEmpty
  | sourceNotObject
  | invalidPrivate (found : Json)
  | filterNotObject
  | keyMissing
  | unknownKey (found : Json)
  | branchMissing (key side : String)
  | operandMissing (field : String)
  | operandNotString (field : String)
  | unknownOperator (symbol : String)
  | negateNotBool (found : Json)
  | invalidPattern (source : String)
  | operationsNotArray
  | operationNotArray (found : Json)
  | unknownOperation (found : Json)
  | wrongLength (name : String) (due actual : Nat) (found : Json)
  | argumentNotString (found : Json)

def Cause.message : Cause → String
  | calendarNotObject => "配置必须是对象"
  | missing field => "缺少 " ++ field
  | unknownType found => "无效的 type: " ++ found.render
  | invalidUrl found => "无效的 url: " ++ found.render
  | rulesNotArray => "rules 必须是数组"
  | ruleNotObject => "规则必须是对象"
  | urlsNotArray => "urls 必须是数组"
  | urlsEmpty => "urls 不能为空"
  | sourceNotObject => "来源必须是对象"
  | invalidPrivate found => "无效的 private: " ++ found.render
  | filterNotObject => "过滤条件必须是对象"
  | keyMissing => "过滤条件缺少 key"
  | unknownKey found => "无效的过滤 key: " ++ found.render
  | branchMissing key side => key ++ " 节点缺少 " ++ side
  | operandMissing field => "if 节点缺少 " ++ field
  | operandNotString field => "if 节点的 " ++ field ++ " 必须是字符串"
  | unknownOperator symbol => "无效的过滤操作符: " ++ symbol
  | negateNotBool found => "negate 必须是布尔值，实际为 " ++ found.render
  | invalidPattern source => "正则表达式无效: " ++ source
  | operationsNotArray => "operations 必须是数组"
  | operationNotArray found => "操作必须是数组: " ++ found.render
  | unknownOperation found => "无效的操作: " ++ found.render
  | wrongLength name due actual found =>
    name ++ " 操作需要 " ++ toString due ++ " 个元素，实际为 " ++ toString actual ++ ": " ++
      found.render
  | argumentNotString found => "操作参数必须是字符串: " ++ found.render

/-- A cause and the place of what it is about; the definition as a whole has the empty place. -/
structure Fault where
  place : Json.Location
  cause : Cause

/-- The place, unless it is the whole definition, and the cause in words. -/
def Fault.message (f : Fault) : String :=
  if f.place = [] then f.cause.message
  else Json.locationText f.place ++ ": " ++ f.cause.message

end CalendarRelay.Rule
