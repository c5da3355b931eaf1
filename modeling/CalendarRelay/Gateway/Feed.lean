import CalendarRelay.Gateway.Fault

namespace CalendarRelay.Gateway

inductive Feed
  | text (content : String)
  | refused (status : Nat) (body : String)
  | unreachable (detail : String)
  deriving DecidableEq

namespace Feed

/-- What asking for the feed behind an address gives. -/
def ask (url : String) : Feed → Except Fault String
  | text content => .ok content
  | refused status body => .error (.feedRefused url status body)
  | unreachable detail => .error (.unreachable detail)

/-- The way to the feeds behind all addresses. -/
def fetcher (feeds : String → Feed) : Fetcher := fun url => (feeds url).ask url

end Feed

end CalendarRelay.Gateway
