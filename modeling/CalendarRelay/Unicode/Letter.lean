import CalendarRelay.Unicode.Property
import CalendarRelay.Text.Ascii

namespace CalendarRelay.Unicode.Letter

/-- The letters that version 17 has brought. -/
def added : CharSet := .ofTable
    "88F C5C CDC A7CE-A7CF A7D2 A7D4 A7F1 10940-10959 10EC5-10EC7 10EFA-10EFB 11B60-11B67
    11DB0-11DDB 16EA0-16EB8 16EBB-16ED3 16FF2-16FF6 187F8-187FF 18D09-18D1E 18D80-18DF2
    1E6C0-1E6DE 1E6E0-1E6F5 1E6FE-1E6FF 2B73A-2B73F 2CEA2-2CEAD 323B0-33479"

/-- The numbers that version 17 has brought. -/
def addedNumbers : CharSet := ⟨[(0x11DE0, 0x11DE9), (0x16FF4, 0x16FF6)]⟩

/-- The lower-case letters that version 17 has brought. -/
def addedLowercase : CharSet := ⟨[(0xA7CF, 0xA7CF), (0xA7F1, 0xA7F1), (0x16EBB, 0x16ED3)]⟩

/-- The letters of version 17 of the Unicode standard. -/
def alphabetic : CharSet := Property.alphabetic.union added

/-- The lower-case letters of version 17, where one letter no longer counts as such. -/
def lowercase : CharSet := (Property.lowercase.union addedLowercase).diff (.ofChar 'ʕ')

/-- Letters and all kinds of numbers. -/
def alphanumeric : CharSet :=
  Property.unionOf [alphabetic, Category.group 'n', addedNumbers]

def isAscii (c : Char) : Bool := c.toNat < 0x80

/-- Whether a character is a letter or a number; those of ASCII are told without the tables. -/
def isAlphanumeric (c : Char) : Bool :=
  if isAscii c then Text.isLetter c || Text.isDigit c else alphanumeric.contains c

/-- Whether a character is a lower-case letter; those of ASCII are told without the tables. -/
def isLowercase (c : Char) : Bool :=
  if isAscii c then Text.isLowerChar c else lowercase.contains c

end CalendarRelay.Unicode.Letter
