import CalendarRelay.Unicode.Letter

namespace CalendarRelay.ValueType

def text : String := "text"

/-- The type of properties that the standard does not know. -/
def unknown : String := "unknown"

/-- The type of a property that names none; names count in upper case only. -/
def ofName (name : String) : String :=
  if ["CALSCALE", "METHOD", "PRODID", "VERSION", "CATEGORIES", "CLASS", "COMMENT", "DESCRIPTION",
      "LOCATION", "RESOURCES", "STATUS", "SUMMARY", "TRANSP", "TZID", "TZNAME", "CONTACT",
      "RELATED-TO", "UID", "ACTION", "REQUEST-STATUS"].contains name then text
  else if "X-".toList.isPrefixOf name.toList then text
  else if ["DTSTART", "DTEND", "DTSTAMP", "DUE", "CREATED", "LAST-MODIFIED", "COMPLETED",
      "RECURRENCE-ID", "EXDATE", "RDATE"].contains name then "date-time"
  else if ["RRULE", "EXRULE"].contains name then "recur"
  else if ["DURATION", "TRIGGER"].contains name then "duration"
  else if name = "GEO" then "float"
  else if ["PRIORITY", "SEQUENCE", "REPEAT", "PERCENT-COMPLETE"].contains name then "integer"
  else if ["URL", "TZURL", "ATTACH"].contains name then "uri"
  else if ["ATTENDEE", "ORGANIZER"].contains name then "cal-address"
  else if ["TZOFFSETFROM", "TZOFFSETTO"].contains name then "utc-offset"
  else if name = "FREEBUSY" then "period"
  else unknown

/-- The properties that hold several values with commas between them. -/
def isList (name : String) : Bool := name == "CATEGORIES" || name == "RESOURCES"

/-- The types that a property may name for itself. -/
def declarable : List String := ["BINARY", "BOOLEAN", "CAL-ADDRESS", "DATE", "DATE-TIME",
  "DURATION", "FLOAT", "INTEGER", "PERIOD", "RECUR", "TEXT", "TIME", "URI", "UTC-OFFSET"]

/-- The properties whose values are text by their name. -/
def isTextName (name : String) : Bool :=
  !name.toList.any Unicode.Letter.isLowercase &&
    !isList name && ofName name == text

end CalendarRelay.ValueType
