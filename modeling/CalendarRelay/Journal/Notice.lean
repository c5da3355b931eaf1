import CalendarRelay.Text.Scan

namespace CalendarRelay

inductive Level
  | error
  | warn
  | info
  | debug
  | trace
  deriving DecidableEq

namespace Level

def text : Level → String
  | .error => "ERROR"
  | .warn => "WARN"
  | .info => "INFO"
  | .debug => "DEBUG"
  | .trace => "TRACE"

/-- How much is told at the level and the ones before it, from one for errors alone. -/
def verbosity : Level → Nat
  | .error => 1
  | .warn => 2
  | .info => 3
  | .debug => 4
  | .trace => 5

end Level

inductive Notice
  | patternInvalid (pattern : String)
  | ruleMatched (rule : Nat)
  | calendarLoaded (calendar kind : String) (rules : Nat)
  | calendarInvalid (calendar error : String)
  | calendarKept (calendar : String)
  | catalogueReloaded (version loaded failed removed : Nat)
  | definitionsLoaded (calendars loaded removed : Nat)
  | definitionsPartlyInvalid (calendars failed : Nat) (retained : List String)
  | definitionsRefused (error : String)
  | sourceLoaded (url : String) (isPrivate : Bool)
  | rulesApplied (calendar : String) (events removed rulesMatched : Nat)
  | calendarUnknown (calendar : String)
  | feedRefused (url : String) (status : Nat)
  | requestFailed (error code : String)
  | watchStarted (path : String)
  | watchStopped
  | fileChanged (path : String)
  | reloadFailed (error : String)
  | reloadCrashed (error : String)
  | observabilityReady (service format : String) (metrics : Bool)
  | observabilityClosed
  | metricsListening (address : String)
  | starting (service address : String)
  | listening (address : String)
  | signalled (signal : String)
  | stopped

/-- A notice as a log line shows it. -/
structure LogLine where
  level : Level
  target : String
  message : String
  fields : List (String × String) := []
  deriving DecidableEq

namespace Notice

def flagText (b : Bool) : String := if b then "true" else "false"

def line : Notice → LogLine
  | patternInvalid pattern =>
    { level := .warn, target := "rule_engine::evaluator"
      message := "事件字段中的正则表达式无效，按不匹配处理"
      fields := [("pattern", pattern), ("error", "无法解析")] }
  | ruleMatched rule =>
    { level := .trace, target := "rule_engine::executor", message := "规则匹配，执行操作"
      fields := [("rule", toString rule)] }
  | calendarLoaded calendar kind rules =>
    { level := .info, target := "rule_engine::store", message := "日历已加载"
      fields := [("calendar", calendar), ("kind", kind), ("rules", toString rules)] }
  | calendarInvalid calendar error =>
    { level := .error, target := "rule_engine::store", message := "日历配置无效"
      fields := [("calendar", calendar), ("error", error)] }
  | calendarKept calendar =>
    { level := .warn, target := "rule_engine::store", message := "沿用上一次成功编译的版本"
      fields := [("calendar", calendar)] }
  | catalogueReloaded version loaded failed removed =>
    { level := .info, target := "rule_engine::store", message := "日历配置重新加载完成"
      fields := [("version", toString version), ("loaded", toString loaded),
        ("failed", toString failed), ("removed", toString removed)] }
  | definitionsLoaded calendars loaded removed =>
    { level := .info, target := "calendar_proxy::loader", message := "日历定义已加载"
      fields := [("calendars", toString calendars), ("loaded", toString loaded),
        ("removed", toString removed)] }
  | definitionsPartlyInvalid calendars failed retained =>
    { level := .warn, target := "calendar_proxy::loader", message := "部分日历定义无效"
      fields := [("calendars", toString calendars), ("failed", toString failed),
        ("retained", Text.quotedNames retained)] }
  | definitionsRefused error =>
    { level := .warn, target := "calendar_proxy::loader"
      message := "日历定义加载失败，保留当前配置", fields := [("error", error)] }
  | sourceLoaded url isPrivate =>
    { level := .debug, target := "calendar_proxy::merge", message := "合并来源已加载"
      fields := [("url", url), ("private", flagText isPrivate)] }
  | rulesApplied calendar events removed rulesMatched =>
    { level := .info, target := "calendar_proxy::handlers::calendar", message := "日历规则已应用"
      fields := [("calendar", calendar), ("events", toString events),
        ("removed", toString removed), ("rules_matched", toString rulesMatched)] }
  | calendarUnknown calendar =>
    { level := .debug, target := "calendar_proxy::error", message := "请求的日历不存在"
      fields := [("calendar", calendar)] }
  | feedRefused url status =>
    { level := .warn, target := "calendar_proxy::error", message := "上游返回非成功状态"
      fields := [("url", url), ("upstream_status", toString status)] }
  | requestFailed error code =>
    { level := .error, target := "calendar_proxy::error", message := "日历请求失败"
      fields := [("error", error), ("code", code)] }
  | watchStarted path =>
    { level := .info, target := "calproxy_shared::config_watcher"
      message := "配置文件监听已启动", fields := [("path", path)] }
  | watchStopped =>
    { level := .info, target := "calproxy_shared::config_watcher"
      message := "配置文件监听已停止" }
  | fileChanged path =>
    { level := .info, target := "calproxy_shared::config_watcher"
      message := "配置文件变更，重新加载", fields := [("path", path)] }
  | reloadFailed error =>
    { level := .error, target := "calproxy_shared::config_watcher"
      message := "配置文件重新加载失败，保留当前配置", fields := [("error", error)] }
  | reloadCrashed error =>
    { level := .error, target := "calproxy_shared::config_watcher"
      message := "配置重新加载任务异常退出", fields := [("error", error)] }
  | observabilityReady service format metrics =>
    { level := .info, target := "calproxy_shared::observability"
      message := "Observability initialized"
      fields := [("service", service), ("log_format", format),
        ("metrics_enabled", flagText metrics)] }
  | observabilityClosed =>
    { level := .info, target := "calproxy_shared::observability"
      message := "Shutting down observability..." }
  | metricsListening address =>
    { level := .info, target := "calproxy_shared::observability::metrics"
      message := "Metrics server listening on " ++ address }
  | starting service address =>
    { level := .info, target := "calendar_proxy"
      message := "Starting " ++ service ++ " on " ++ address }
  | listening address =>
    { level := .info, target := "calendar_proxy"
      message := "Calendar server listening on " ++ address }
  | signalled signal =>
    { level := .info, target := "calendar_proxy"
      message := "Received " ++ signal ++ ", initiating graceful shutdown..." }
  | stopped =>
    { level := .info, target := "calendar_proxy", message := "Server shutdown complete" }

end Notice

end CalendarRelay
