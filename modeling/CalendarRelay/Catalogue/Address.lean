import CalendarRelay.Text.Ascii
import CalendarRelay.Text.Scan

namespace CalendarRelay.Address

open Text

def isNameChar (c : Char) : Bool := isLetter c || isDigit c || c == '_' || c == '-'

/-- A name of a calendar: letters, digits, underscores and hyphens, at least one of them. -/
def isCalendarName (name : String) : Bool := !name.toList.isEmpty && name.toList.all isNameChar

def isHostChar (c : Char) : Bool :=
  isLetter c || isDigit c || "-@:%._+~#=".toList.contains c

def isLabelChar (c : Char) : Bool := isLetter c || isDigit c || c == '(' || c == ')'

def isTailChar (c : Char) : Bool :=
  isLetter c || isDigit c || "-()@:%_+.~#?&/=".toList.contains c

def isWordChar (c : Char) : Bool := isLetter c || isDigit c || c == '_'

/-- Whether a text is a label of one to six characters, and after it only characters of paths.
The label ends at a boundary of a word. -/
def endsInLabel (cs : List Char) : Bool :=
  (List.range 6).any fun k =>
    let label := cs.take (k + 1)
    let rest := cs.drop (k + 1)
    label.length == k + 1 && label.all isLabelChar && rest.all isTailChar &&
      label.getLast?.any isWordChar != rest.head?.any isWordChar

/-- Whether a text is one to 256 characters of host names, a dot and what ends in a label. -/
def isHost (cs : List Char) : Bool :=
  (List.range 256).any fun k =>
    let host := cs.take (k + 1)
    host.length == k + 1 && host.all isHostChar &&
      match cs.drop (k + 1) with
      | '.' :: rest => endsInLabel rest
      | _ => false

/-- The text after `http://` or `https://`. -/
def afterScheme? (cs : List Char) : Option (List Char) :=
  afterMark? "https://".toList cs <|> afterMark? "http://".toList cs

/-- An address of a feed: a scheme of the web, an optional `www.` and a host with a path. -/
def isFeedUrl (url : String) : Bool :=
  match afterScheme? url.toList with
  | some rest => isHost rest || (afterMark? "www.".toList rest).any isHost
  | none => false

end CalendarRelay.Address
