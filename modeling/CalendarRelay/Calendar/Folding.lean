namespace CalendarRelay.Folding

/-- The bytes of a physical line, the line break not counted. -/
def width : Nat := 75

/-- A content line in physical lines, where `room` bytes are left in the first one. -/
def fold (room : Nat) : List Char → List Char
  | [] => ['\r', '\n']
  | c :: cs =>
    if c.utf8Size ≤ room then c :: fold (room - c.utf8Size) cs
    else '\r' :: '\n' :: ' ' :: c :: fold (width - 1 - c.utf8Size) cs

/-- A content line as it is written. -/
def foldLine (line : List Char) : List Char := fold width line

/-- The text without the line breaks that a space or a tab follows, and without those. -/
def unfold : List Char → List Char
  | '\r' :: '\n' :: ' ' :: cs => unfold cs
  | '\r' :: '\n' :: '\t' :: cs => unfold cs
  | '\n' :: ' ' :: cs => unfold cs
  | '\n' :: '\t' :: cs => unfold cs
  | c :: cs => c :: unfold cs
  | [] => []

end CalendarRelay.Folding
