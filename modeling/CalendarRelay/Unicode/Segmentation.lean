import CalendarRelay.Unicode.Property
import CalendarRelay.Unicode.Script

namespace CalendarRelay.Unicode.Segmentation

open CalendarRelay.Unicode.Property

def joiner : CharSet := ⟨[(0x200D, 0x200D)]⟩

def lineFeed : CharSet := ⟨[(0xA, 0xA)]⟩

def carriageReturn : CharSet := ⟨[(0xD, 0xD)]⟩

namespace Grapheme

def extend : CharSet := graphemeExtend.union (listed "emod")

/-- What joins the character after it. -/
def prepend : CharSet := (listed "pcm").union <| .ofTable
    "D4E 111C2-111C3 113D1 1193F 11941 11A3A 11A84-11A89 11D46 11F02"

def control : CharSet :=
  let shown := Category.assigned.diff (categories ["zl", "zp", "cc", "cf"])
  let hidden := unionOf [categories ["zl", "zp", "cc", "cf"], defaultIgnorable.diff shown]
  hidden.diff (unionOf [extend, prepend, joiner, lineFeed, carriageReturn])

/-- The spacing marks that stand apart from the character before them. -/
def detached : CharSet := .ofTable
    "102B-102C 1038 1062-1064 1067-106D 1083 1087-108C 108F 109A-109C 1A61 1A63-1A64 AA7B AA7D
    11720-11721"

def spacing : CharSet :=
  (unionOf [categories ["mc"], ⟨[(0xE33, 0xE33), (0xEB3, 0xEB3)]⟩]).diff (extend.union detached)

/-- The Hangul syllables, of which every twenty-eighth has no final consonant. -/
def syllables : CharSet := ⟨[(0xAC00, 0xD7A3)]⟩

def openSyllables : CharSet :=
  ⟨(List.range 399).map fun k => (0xAC00 + 28 * k, 0xAC00 + 28 * k)⟩

/-- The class with a name in lower case and without separators. -/
def named? (name : String) : Option CharSet :=
  match name with
  | "cr" => some carriageReturn
  | "lf" => some lineFeed
  | "cn" | "control" => some control
  | "ex" | "extend" => some extend
  | "pp" | "prepend" => some prepend
  | "sm" | "spacingmark" => some spacing
  | "l" => some ⟨[(0x1100, 0x115F), (0xA960, 0xA97C)]⟩
  | "v" => some <| .ofTable "1160-11A7 D7B0-D7C6 16D63 16D67-16D6A"
  | "t" => some <| .ofTable "11A8-11FF D7CB-D7FB"
  | "lv" => some openSyllables
  | "lvt" => some (syllables.diff openSyllables)
  | "ri" | "regionalindicator" => some (listed "ri")
  | "zwj" => some joiner
  | _ => none

end Grapheme

namespace Word

def extend : CharSet :=
  (unionOf [graphemeExtend, categories ["mc"], listed "emod"]).diff joiner

def format : CharSet :=
  (categories ["cf"]).diff (unionOf [listed "pcm", ⟨[(0x200B, 0x200B)]⟩, joiner, extend])

def katakana : CharSet := .ofTable
    "3031-3035 309B-309C 30A0-30FA 30FC-30FF 31F0-31FF 32D0-32FE 3300-3357 FF66-FF9D 1AFF0-1AFF3
    1AFF5-1AFFB 1AFFD-1AFFE 1B000 1B120-1B122 1B155 1B164-1B167"

def hebrew : CharSet := ((Script.named? "hebr").getD .empty).inter (categories ["lo"])

def hiragana : CharSet := (Script.named? "hira").getD .empty

/-- The further characters that count as letters of words. -/
def letterLike : CharSet := .ofTable
    "2C2-2C5 2D2-2D7 2DE-2DF 2E5-2EB 2ED 2EF-2FF 55A-55C 55E 58A 5F3 70F A708-A716 A720-A721
    A789-A78A AB5B"

/-- The letters of scripts that write no blanks between words. -/
def undivided : CharSet := .ofTable
    "E01-E30 E32-E33 E40-E46 E81-E82 E84 E86-E8A E8C-EA3 EA5 EA7-EB0 EB2-EB3 EBD EC0-EC4 EC6
    EDC-EDF 1000-102A 103F 1050-1055 105A-105D 1061 1065-1066 106E-1070 1075-1081 108E 1780-17B3
    17D7 17DC 1950-196D 1970-1974 1980-19AB 19B0-19C9 1A20-1A54 1AA7 A9E0-A9E4 A9E6-A9EF A9FA-A9FE
    AA60-AA76 AA7A AA7E-AAAF AAB1 AAB5-AAB6 AAB9-AABD AAC0 AAC2 AADB-AADD 11700-1171A 11740-11746"

def letter : CharSet :=
  (alphabetic.diff (unionOf [listed "ideo", katakana, hiragana, extend, hebrew, undivided])).union
    letterLike

def numeric : CharSet := digit.union <| .ofTable
    "600-605 66B 6DD 890-891 8E2 19DA 110BD 110CD"

/-- The class with a name in lower case and without separators. -/
def named? (name : String) : Option CharSet :=
  match name with
  | "cr" => some carriageReturn
  | "lf" => some lineFeed
  | "nl" | "newline" => some <| .ofTable "B-C 85 2028-2029"
  | "extend" => some extend
  | "zwj" => some joiner
  | "ri" | "regionalindicator" => some (listed "ri")
  | "fo" | "format" => some format
  | "ka" | "katakana" => some katakana
  | "hl" | "hebrewletter" => some hebrew
  | "le" | "aletter" => some letter
  | "sq" | "singlequote" => some (.ofChar '\x27')
  | "dq" | "doublequote" => some (.ofChar '"')
  | "mb" | "midnumlet" => some <| .ofTable "2E 2018-2019 2024 FE52 FF07 FF0E"
  | "ml" | "midletter" => some <| .ofTable "3A B7 387 55F 5F4 2027 FE13 FE55 FF1A"
  | "mn" | "midnum" => some <| .ofTable
      "2C 3B 37E 589 60C-60D 66C 7F8 2044 FE50 FE54 FF0C FF1B"
  | "nu" | "numeric" => some numeric
  | "ex" | "extendnumlet" => some ((categories ["pc"]).union ⟨[(0x202F, 0x202F)]⟩)
  | "wsegspace" => some <| .ofTable "20 1680 2000-2006 2008-200A 205F 3000"
  | _ => none

end Word

namespace Sentence

def extend : CharSet := unionOf [graphemeExtend, categories ["mc"], joiner]

def numeric : CharSet := Word.numeric.union ⟨[(0x66C, 0x66C)]⟩

/-- The lower-case letters; the letters of Georgian count as having no case. -/
def lower : CharSet :=
  lowercase.diff (unionOf [graphemeExtend, ⟨[(0x10D0, 0x10FA), (0x10FD, 0x10FF)]⟩])

def upper : CharSet :=
  (unionOf [uppercase, categories ["lt"]]).diff ⟨[(0x1C90, 0x1CBA), (0x1CBD, 0x1CBF)]⟩

/-- The stops that may also stand within sentences. -/
def stop : CharSet := ⟨[(0x2E, 0x2E), (0x2024, 0x2024), (0xFE52, 0xFE52), (0xFF0E, 0xFF0E)]⟩

def close : CharSet :=
  (unionOf [categories ["ps", "pe", "pi", "pf"], listed "qmark", .ofTable
      "275B-2760 2E00-2E01 2E06-2E08 2E0B 1F676-1F678"]).diff ⟨[(0xFF02, 0xFF02), (0xFF07, 0xFF07)]⟩

/-- The class with a name in lower case and without separators. -/
def named? (name : String) : Option CharSet :=
  match name with
  | "cr" => some carriageReturn
  | "lf" => some lineFeed
  | "se" | "sep" => some <| .ofTable "85 2028-2029"
  | "ex" | "extend" => some extend
  | "fo" | "format" => some ((categories ["cf"]).diff (numeric.union extend))
  | "sp" => some <| .ofTable "9 B-C 20 A0 1680 2000-200A 202F 205F 3000"
  | "lo" | "lower" => some lower
  | "up" | "upper" => some upper
  | "le" | "oletter" =>
    some ((alphabetic.union ⟨[(0x5F3, 0x5F3)]⟩).diff (unionOf [lower, upper, extend]))
  | "nu" | "numeric" => some numeric
  | "at" | "aterm" => some stop
  | "sc" | "scontinue" => some <| .ofTable
      "2C-2D 3A-3B 37E 55D 60C-60D 7F8 1802 1808 2013-2014 3001 FE10-FE11 FE13-FE14 FE31-FE32
      FE50-FE51 FE54-FE55 FE58 FE63 FF0C-FF0D FF1A-FF1B FF64"
  | "st" | "sterm" => some ((listed "sterm").diff stop)
  | "cl" | "close" => some close
  | _ => none

end Sentence

end CalendarRelay.Unicode.Segmentation
