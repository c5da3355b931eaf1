import CalendarRelay.Unicode.CharSet

namespace CalendarRelay.Unicode.Folding

/-- Pairs of characters that differ in case alone, by version 16 of the Unicode standard. An entry
`A-B/s+d` pairs every `s`-th character from `A` to `B` with the one `d` places after it. -/
def pairTable : String :=
    "41-4A/1+20 4C-52/1+20 54-5A/1+20 C0-C4/1+20 C6-D6/1+20 D8-DE/1+20 DF-DF/1+1DBF FF-FF/1+79
    100-12E/2+1 132-136/2+1 139-147/2+1 14A-176/2+1 179-17D/2+1 180-180/1+C3 181-181/1+D2
    182-184/2+1 186-186/1+CE 187-187/1+1 189-18A/1+CD 18B-18B/1+1 18E-18E/1+4F 18F-18F/1+CA
    190-190/1+CB 191-191/1+1 193-193/1+CD 194-194/1+CF 195-195/1+61 196-196/1+D3 197-197/1+D1
    198-198/1+1 19A-19A/1+A3 19B-19B/1+A641 19C-19C/1+D3 19D-19D/1+D5 19E-19E/1+82 19F-19F/1+D6
    1A0-1A4/2+1 1A6-1A6/1+DA 1A7-1A7/1+1 1A9-1A9/1+DA 1AC-1AC/1+1 1AE-1AE/1+DA 1AF-1AF/1+1
    1B1-1B2/1+D9 1B3-1B5/2+1 1B7-1B7/1+DB 1B8-1B8/1+1 1BC-1BC/1+1 1BF-1BF/1+38 1CD-1DB/2+1
    1DE-1EE/2+1 1F4-1F4/1+1 1F8-21E/2+1 222-232/2+1 23A-23A/1+2A2B 23B-23B/1+1 23E-23E/1+2A28
    23F-240/1+2A3F 241-241/1+1 244-244/1+45 245-245/1+47 246-24E/2+1 250-250/1+2A1F 251-251/1+2A1C
    252-252/1+2A1E 25C-25C/1+A54F 261-261/1+A54B 264-264/1+A567 265-265/1+A528 266-266/1+A544
    26A-26A/1+A544 26B-26B/1+29F7 26C-26C/1+A541 271-271/1+29FD 27D-27D/1+29E7 282-282/1+A543
    287-287/1+A52A 29D-29D/1+A515 29E-29E/1+A512 370-372/2+1 376-376/1+1 37B-37D/1+82 37F-37F/1+74
    386-386/1+26 388-38A/1+25 38C-38C/1+40 38E-38F/1+3F 390-390/1+1C43 391-393/2+20 394-396/2+20
    397-397/1+20 39B-39D/2+20 39E-39F/1+20 3A4-3A5/1+20 3A7-3A8/1+20 3AA-3AB/1+20 3B0-3B0/1+1C33
    3CF-3CF/1+8 3D8-3EE/2+1 3F2-3F2/1+7 3F7-3F7/1+1 3FA-3FA/1+1 400-40F/1+50 410-411/1+20
    413-415/2+20 416-41D/1+20 41F-420/1+20 423-429/1+20 42B-42F/1+20 460-460/1+1 464-480/2+1
    48A-4BE/2+1 4C0-4C0/1+F 4C1-4CD/2+1 4D0-52E/2+1 531-556/1+30 10A0-10C5/1+1C60 10C7-10C7/1+1C60
    10CD-10CD/1+1C60 10D0-10FA/1+BC0 10FD-10FF/1+BC0 13A0-13EF/1+97D0 13F0-13F5/1+8 1C89-1C89/1+1
    1D79-1D79/1+8A04 1D7D-1D7D/1+EE6 1D8E-1D8E/1+8A38 1E00-1E5E/2+1 1E62-1E94/2+1 1EA0-1EFE/2+1
    1F00-1F07/1+8 1F10-1F15/1+8 1F20-1F27/1+8 1F30-1F37/1+8 1F40-1F45/1+8 1F51-1F57/2+8
    1F60-1F67/1+8 1F70-1F71/1+4A 1F72-1F75/1+56 1F76-1F77/1+64 1F78-1F79/1+80 1F7A-1F7B/1+70
    1F7C-1F7D/1+7E 1F80-1F87/1+8 1F90-1F97/1+8 1FA0-1FA7/1+8 1FB0-1FB1/1+8 1FB3-1FB3/1+9
    1FC3-1FC3/1+9 1FD0-1FD1/1+8 1FE0-1FE1/1+8 1FE5-1FE5/1+7 1FF3-1FF3/1+9 2132-2132/1+1C
    2160-216F/1+10 2183-2183/1+1 24B6-24CF/1+1A 2C00-2C2F/1+30 2C60-2C60/1+1 2C67-2C6B/2+1
    2C72-2C72/1+1 2C75-2C75/1+1 2C80-2CE2/2+1 2CEB-2CED/2+1 2CF2-2CF2/1+1 A640-A648/2+1
    A64C-A66C/2+1 A680-A69A/2+1 A722-A72E/2+1 A732-A76E/2+1 A779-A77B/2+1 A77E-A786/2+1
    A78B-A78B/1+1 A790-A792/2+1 A794-A794/1+30 A796-A7A8/2+1 A7B3-A7B3/1+3A0 A7B4-A7C2/2+1
    A7C7-A7C9/2+1 A7CC-A7CC/1+1 A7D0-A7D0/1+1 A7D6-A7DA/2+1 A7F5-A7F5/1+1 FB05-FB05/1+1
    FF21-FF3A/1+20 10400-10427/1+28 104B0-104D3/1+28 10570-1057A/1+27 1057C-1058A/1+27
    1058C-10592/1+27 10594-10595/1+27 10C80-10CB2/1+40 10D50-10D65/1+20 118A0-118BF/1+20
    16E40-16E5F/1+20 1E900-1E921/1+22"

/-- The classes of three and more characters. -/
def classTable : String :=
    "4B=6B=212A 53=73=17F B5=39C=3BC C5=E5=212B 1C4=1C5=1C6 1C7=1C8=1C9 1CA=1CB=1CC 1F1=1F2=1F3
    345=399=3B9=1FBE 392=3B2=3D0 395=3B5=3F5 398=3B8=3D1=3F4 39A=3BA=3F0 3A0=3C0=3D6 3A1=3C1=3F1
    3A3=3C2=3C3 3A6=3C6=3D5 3A9=3C9=2126 412=432=1C80 414=434=1C81 41E=43E=1C82 421=441=1C83
    422=442=1C84=1C85 42A=44A=1C86 462=463=1C87 1C88=A64A=A64B 1E60=1E61=1E9B"

/-- The classes of characters that differ in case alone. -/
def classes : List (List Nat) :=
  (Runs.ofTable pairTable).flatMap (fun r => r.starts.map fun (n : Nat) => [n, r.image n])
    ++ (CharSet.splitTable classTable).map fun e => (e.splitOn "=").map CharSet.hex

/-- The set with every character that differs in case alone from one of its members. -/
def close (s : CharSet) : CharSet :=
  let added := (classes.filter fun c => c.any s.containsCode).flatten
  if added.isEmpty then s else .ofRanges (s.ranges ++ added.map fun n => (n, n))

end CalendarRelay.Unicode.Folding
