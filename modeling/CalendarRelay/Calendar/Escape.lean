namespace CalendarRelay.Escape

def escapeChar (c : Char) : List Char :=
  match c with
  | '\\' => ['\\', '\\']
  | ';' => ['\\', ';']
  | ',' => ['\\', ',']
  | '\n' => ['\\', 'n']
  | '\r' => []
  | c => [c]

def escape (value : List Char) : List Char := value.flatMap escapeChar

/-- The character that one after a backslash stands for. A backslash before any other character
stands for itself. -/
def unescapeChar? (c : Char) : Option Char :=
  if c = '\\' ∨ c = ',' ∨ c = ';' ∨ c = ':' then some c
  else if c = 'n' ∨ c = 'N' then some '\n'
  else none

def unescape : List Char → List Char
  | '\\' :: c :: cs =>
    match unescapeChar? c with
    | some d => d :: unescape cs
    | none => '\\' :: c :: unescape cs
  | c :: cs => c :: unescape cs
  | [] => []

end CalendarRelay.Escape
