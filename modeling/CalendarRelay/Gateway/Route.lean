import CalendarRelay.Text.Ascii
import CalendarRelay.Text.Scan

namespace CalendarRelay.Gateway

open Text

inductive Route
  | index
  | health
  | file (segment : List Char)
  | unmatched
  deriving DecidableEq

namespace Route

/-- The name of a route in counters. -/
def label : Route → String
  | index => "/"
  | health => "/health"
  | file _ => "/\x7bfile\x7d"
  | unmatched => "unmatched"

/-- The path of a target: without query and fragment, and without scheme and host where the
target names them. -/
def pathOf (target : List Char) : List Char :=
  let cs := target.takeWhile fun c => c != '?' && c != '#'
  match cs, cutAt? "://".toList cs with
  | '/' :: _, _ => cs
  | _, some (_, rest) =>
    match rest.dropWhile (· != '/') with
    | [] => ['/']
    | path => path
  | _, none => cs

/-- The route of a target. A name of a file is one segment of a path and not empty. -/
def ofTarget (target : String) : Route :=
  match pathOf target.toList with
  | ['/'] => .index
  | '/' :: segment =>
    if segment = "health".toList then .health
    else if segment.contains '/' then .unmatched
    else .file segment
  | _ => .unmatched

end Route

/-- The bytes of a segment with percent signs decoded. A percent sign that two hexadecimal digits
do not follow stays. -/
def percentDecode : List Char → List UInt8
  | '%' :: a :: b :: cs =>
    match hexValue? a, hexValue? b with
    | some x, some y => UInt8.ofNat (16 * x + y) :: percentDecode cs
    | _, _ => '%'.toUInt8 :: percentDecode (a :: b :: cs)
  | c :: cs => String.utf8EncodeChar c ++ percentDecode cs
  | [] => []

/-- The text of a segment, if its bytes are one. -/
def decodeSegment? (segment : List Char) : Option String :=
  String.fromUTF8? ⟨(percentDecode segment).toArray⟩

end CalendarRelay.Gateway
