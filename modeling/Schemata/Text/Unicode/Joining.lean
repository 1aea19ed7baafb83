import Schemata.Text.Unicode.Ranges

/-!
# Arabic joining classes

The Arabic joining groups Alef and Lam and the transparent joining type
(Unicode 17.0), which together describe the lam-alef ligature: a letter of the
Lam group, then transparent marks, then a letter of the Alef group.
-/

namespace Schemata

namespace Unicode

/-- The code point ranges of the joining group Alef, as compact hexadecimal text. -/
def isAlefGroupText : String :=
  "622-623,625,627,671-673,675,773-774,870-882"

/-- The code point ranges of the joining group Alef, decoded once. -/
def isAlefGroupTable : Array (Nat × Nat) := decodeRanges isAlefGroupText

/-- Whether a letter belongs to the joining group Alef. -/
def isAlefGroup (c : Char) : Bool := inRanges isAlefGroupTable c.toNat

/-- The code point ranges of the joining group Lam, as compact hexadecimal text. -/
def isLamGroupText : String :=
  "644,6B5-6B8,76A,8A6,8C7"

/-- The code point ranges of the joining group Lam, decoded once. -/
def isLamGroupTable : Array (Nat × Nat) := decodeRanges isLamGroupText

/-- Whether a letter belongs to the joining group Lam. -/
def isLamGroup (c : Char) : Bool := inRanges isLamGroupTable c.toNat

/-- The code point ranges of the joining type Transparent, as compact hexadecimal text. -/
def isJoinTransparentText : String :=
  "AD,300-36F,483-489,591-5BD,5BF,5C1-5C2,5C4-5C5,5C7-5C8,610-61A,61C,64B-65F,670,6D6-6DC,6DF-6E4,6"
  ++ "E7-6E8,6EA-6ED,70F,711,730-74A,7A6-7B0,7EB-7F3,7FD,816-819,81B-823,825-827,829-82D,859-85B,897-8"
  ++ "9F,8CA-8E1,8E3-902,93A,93C,941-948,94D,951-957,962-963,981,9BC,9C1-9C4,9CD,9E2-9E3,9FE,A01-A02,A"
  ++ "3C,A41-A42,A47-A48,A4B-A4D,A51,A70-A71,A75,A81-A82,ABC,AC1-AC5,AC7-AC8,ACD,AE2-AE3,AFA-AFF,B01,B"
  ++ "3C,B3F,B41-B44,B4D,B55-B56,B62-B63,B82,BC0,BCD,C00,C04,C3C,C3E-C40,C46-C48,C4A-C4D,C55-C56,C62-C"
  ++ "63,C81,CBC,CBF,CC6,CCC-CCD,CE2-CE3,D00-D01,D3B-D3C,D41-D44,D4D,D62-D63,D81,DCA,DD2-DD4,DD6,E31,E"
  ++ "34-E3A,E47-E4E,EB1,EB4-EBC,EC8-ECE,F18-F19,F35,F37,F39,F71-F7E,F80-F84,F86-F87,F8D-F97,F99-FBC,F"
  ++ "C6,102D-1030,1032-1037,1039-103A,103D-103E,1058-1059,105E-1060,1071-1074,1082,1085-1086,108D,109"
  ++ "D,135D-135F,1712-1714,1732-1733,1752-1753,1772-1773,17B4-17B5,17B7-17BD,17C6,17C9-17D3,17DD,180B"
  ++ "-180D,180F,1885-1886,18A9,1920-1922,1927-1928,1932,1939-193B,1A17-1A18,1A1B,1A56,1A58-1A5E,1A60,"
  ++ "1A62,1A65-1A6C,1A73-1A7C,1A7F,1AB0-1ACE,1B00-1B03,1B34,1B36-1B3A,1B3C,1B42,1B6B-1B73,1B80-1B81,1"
  ++ "BA2-1BA5,1BA8-1BA9,1BAB-1BAD,1BE6,1BE8-1BE9,1BED,1BEF-1BF1,1C2C-1C33,1C36-1C37,1CD0-1CD2,1CD4-1C"
  ++ "E0,1CE2-1CE8,1CED,1CF4,1CF8-1CF9,1DC0-1DFF,200B,200E-200F,202A-202E,2060-2064,206A-206F,20D0-20F"
  ++ "0,2CEF-2CF1,2D7F,2DE0-2DFF,302A-302D,3099-309A,A66F-A672,A674-A67D,A69E-A69F,A6F0-A6F1,A802,A806"
  ++ ",A80B,A825-A826,A82C,A8C4-A8C5,A8E0-A8F1,A8FF,A926-A92D,A947-A951,A980-A982,A9B3,A9B6-A9B9,A9BC-"
  ++ "A9BD,A9E5,AA29-AA2E,AA31-AA32,AA35-AA36,AA43,AA4C,AA7C,AAB0,AAB2-AAB4,AAB7-AAB8,AABE-AABF,AAC1,A"
  ++ "AEC-AAED,AAF6,ABE5,ABE8,ABED,FB1E,FE00-FE0F,FE20-FE2F,FEFF,FFF9-FFFB,101FD,102E0,10376-1037A,10A"
  ++ "01-10A03,10A05-10A06,10A0C-10A0F,10A38-10A3A,10A3F,10AE5-10AE6,10D24-10D27,10D69-10D6D,10EAB-10E"
  ++ "AC,10EFC-10EFF,10F46-10F50,10F82-10F85,11001,11038-11046,11070,11073-11074,1107F-11081,110B3-110"
  ++ "B6,110B9-110BA,110C2,11100-11102,11127-1112B,1112D-11134,11173,11180-11181,111B6-111BE,111C9-111"
  ++ "CC,111CF,1122F-11231,11234,11236-11237,1123E,11241,112DF,112E3-112EA,11300-11301,1133B-1133C,113"
  ++ "40,11366-1136C,11370-11374,113BB-113C0,113CE,113D0,113D2,113E1-113E2,11438-1143F,11442-11444,114"
  ++ "46,1145E,114B3-114B8,114BA,114BF-114C0,114C2-114C3,115B2-115B5,115BC-115BD,115BF-115C0,115DC-115"
  ++ "DD,11633-1163A,1163D,1163F-11640,116AB,116AD,116B0-116B5,116B7,1171D-1171F,11722-11725,11727-117"
  ++ "2B,1182F-11837,11839-1183A,1193B-1193C,1193E,11943,119D4-119D7,119DA-119DB,119E0,11A01-11A0A,11A"
  ++ "33-11A38,11A3B-11A3E,11A47,11A51-11A56,11A59-11A5B,11A8A-11A96,11A98-11A99,11C30-11C36,11C38-11C"
  ++ "3D,11C3F,11C92-11CA7,11CAA-11CB0,11CB2-11CB3,11CB5-11CB6,11D31-11D36,11D3A,11D3C-11D3D,11D3F-11D"
  ++ "45,11D47,11D90-11D91,11D95,11D97,11EF3-11EF4,11F00-11F01,11F36-11F3A,11F40,11F42,11F5A,13430-134"
  ++ "40,13447-13455,1611E-16129,1612D-1612F,16AF0-16AF4,16B30-16B36,16F4F,16F8F-16F92,16FE4,1BC9D-1BC"
  ++ "9E,1BCA0-1BCA3,1CF00-1CF2D,1CF30-1CF46,1D127,1D167-1D169,1D173-1D182,1D185-1D18B,1D1AA-1D1AD,1D2"
  ++ "42-1D244,1DA00-1DA36,1DA3B-1DA6C,1DA75,1DA84,1DA9B-1DA9F,1DAA1-1DAAF,1E000-1E006,1E008-1E018,1E0"
  ++ "1B-1E021,1E023-1E024,1E026-1E02A,1E08F,1E130-1E136,1E2AE,1E2EC-1E2EF,1E4EC-1E4EF,1E5EE-1E5EF,1E8"
  ++ "D0-1E8D6,1E944-1E94B,E0001,E0020-E007F,E0100-E01EF"

/-- The code point ranges of the joining type Transparent, decoded once. -/
def isJoinTransparentTable : Array (Nat × Nat) := decodeRanges isJoinTransparentText

/-- Whether a character is transparent to Arabic joining. -/
def isJoinTransparent (c : Char) : Bool := inRanges isJoinTransparentTable c.toNat

end Unicode

end Schemata
