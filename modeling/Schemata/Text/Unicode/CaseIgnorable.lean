import Schemata.Text.Unicode.Ranges

/-!
# Case-ignorable characters

The Unicode `Case_Ignorable` property (Unicode 17.0): characters skipped when
looking for the cased neighbours of a capital sigma.
-/

namespace Schemata

namespace Unicode

/-- The code point ranges of the property, as compact hexadecimal text. -/
def isCaseIgnorableText : String :=
  "27,2E,3A,5E,60,A8,AD,AF,B4,B7-B8,2B0-36F,374-375,37A,384-385,387,483-489,559,55F,591-5BD,5BF,5C1"
  ++ "-5C2,5C4-5C5,5C7-5C8,5F4,600-605,610-61A,61C,640,64B-65F,670,6D6-6DD,6DF-6E8,6EA-6ED,70F,711,730"
  ++ "-74A,7A6-7B0,7EB-7F5,7FA,7FD,816-82D,859-85B,888,890-891,897-89F,8C9-902,93A,93C,941-948,94D,951"
  ++ "-957,962-963,971,981,9BC,9C1-9C4,9CD,9E2-9E3,9FE,A01-A02,A3C,A41-A42,A47-A48,A4B-A4D,A51,A70-A71"
  ++ ",A75,A81-A82,ABC,AC1-AC5,AC7-AC8,ACD,AE2-AE3,AFA-AFF,B01,B3C,B3F,B41-B44,B4D,B55-B56,B62-B63,B82"
  ++ ",BC0,BCD,C00,C04,C3C,C3E-C40,C46-C48,C4A-C4D,C55-C56,C62-C63,C81,CBC,CBF,CC6,CCC-CCD,CE2-CE3,D00"
  ++ "-D01,D3B-D3C,D41-D44,D4D,D62-D63,D81,DCA,DD2-DD4,DD6,E31,E34-E3A,E46-E4E,EB1,EB4-EBC,EC6,EC8-ECE"
  ++ ",F18-F19,F35,F37,F39,F71-F7E,F80-F84,F86-F87,F8D-F97,F99-FBC,FC6,102D-1030,1032-1037,1039-103A,1"
  ++ "03D-103E,1058-1059,105E-1060,1071-1074,1082,1085-1086,108D,109D,10FC,135D-135F,1712-1714,1732-17"
  ++ "33,1752-1753,1772-1773,17B4-17B5,17B7-17BD,17C6,17C9-17D3,17D7,17DD,180B-180F,1843,1885-1886,18A"
  ++ "9,1920-1922,1927-1928,1932,1939-193B,1A17-1A18,1A1B,1A56,1A58-1A5E,1A60,1A62,1A65-1A6C,1A73-1A7C"
  ++ ",1A7F,1AA7,1AB0-1ACE,1B00-1B03,1B34,1B36-1B3A,1B3C,1B42,1B6B-1B73,1B80-1B81,1BA2-1BA5,1BA8-1BA9,"
  ++ "1BAB-1BAD,1BE6,1BE8-1BE9,1BED,1BEF-1BF1,1C2C-1C33,1C36-1C37,1C78-1C7D,1CD0-1CD2,1CD4-1CE0,1CE2-1"
  ++ "CE8,1CED,1CF4,1CF8-1CF9,1D2C-1D6A,1D78,1D9B-1DFF,1FBD,1FBF-1FC1,1FCD-1FCF,1FDD-1FDF,1FED-1FEF,1F"
  ++ "FD-1FFE,200B-200F,2018-2019,2024,2027,202A-202E,2060-2064,2066-206F,2071,207F,2090-209C,20D0-20F"
  ++ "0,2C7C-2C7D,2CEF-2CF1,2D6F,2D7F,2DE0-2DFF,2E2F,3005,302A-302D,3031-3035,303B,3099-309E,30FC-30FE"
  ++ ",A015,A4F8-A4FD,A60C,A66F-A672,A674-A67D,A67F,A69C-A69F,A6F0-A6F1,A700-A721,A770,A788-A78A,A7F1-"
  ++ "A7F4,A7F8-A7F9,A802,A806,A80B,A825-A826,A82C,A8C4-A8C5,A8E0-A8F1,A8FF,A926-A92D,A947-A951,A980-A"
  ++ "982,A9B3,A9B6-A9B9,A9BC-A9BD,A9CF,A9E5-A9E6,AA29-AA2E,AA31-AA32,AA35-AA36,AA43,AA4C,AA70,AA7C,AA"
  ++ "B0,AAB2-AAB4,AAB7-AAB8,AABE-AABF,AAC1,AADD,AAEC-AAED,AAF3-AAF4,AAF6,AB5B-AB5F,AB69-AB6B,ABE5,ABE"
  ++ "8,ABED,FB1E,FBB2-FBD2,FE00-FE0F,FE13,FE20-FE2F,FE52,FE55,FEFF,FF07,FF0E,FF1A,FF3E,FF40,FF70,FF9E"
  ++ "-FF9F,FFE3,FFF9-FFFB,101FD,102E0,10376-1037A,10780-10785,10787-107B0,107B2-107BA,10A01-10A03,10A"
  ++ "05-10A06,10A0C-10A0F,10A38-10A3A,10A3F,10AE5-10AE6,10D24-10D27,10D4E,10D69-10D6D,10D6F,10EAB-10E"
  ++ "AC,10EFC-10EFF,10F46-10F50,10F82-10F85,11001,11038-11046,11070,11073-11074,1107F-11081,110B3-110"
  ++ "B6,110B9-110BA,110BD,110C2,110CD,11100-11102,11127-1112B,1112D-11134,11173,11180-11181,111B6-111"
  ++ "BE,111C9-111CC,111CF,1122F-11231,11234,11236-11237,1123E,11241,112DF,112E3-112EA,11300-11301,113"
  ++ "3B-1133C,11340,11366-1136C,11370-11374,113BB-113C0,113CE,113D0,113D2,113E1-113E2,11438-1143F,114"
  ++ "42-11444,11446,1145E,114B3-114B8,114BA,114BF-114C0,114C2-114C3,115B2-115B5,115BC-115BD,115BF-115"
  ++ "C0,115DC-115DD,11633-1163A,1163D,1163F-11640,116AB,116AD,116B0-116B5,116B7,1171D,1171F,11722-117"
  ++ "25,11727-1172B,1182F-11837,11839-1183A,1193B-1193C,1193E,11943,119D4-119D7,119DA-119DB,119E0,11A"
  ++ "01-11A0A,11A33-11A38,11A3B-11A3E,11A47,11A51-11A56,11A59-11A5B,11A8A-11A96,11A98-11A99,11C30-11C"
  ++ "36,11C38-11C3D,11C3F,11C92-11CA7,11CAA-11CB0,11CB2-11CB3,11CB5-11CB6,11D31-11D36,11D3A,11D3C-11D"
  ++ "3D,11D3F-11D45,11D47,11D90-11D91,11D95,11D97,11EF3-11EF4,11F00-11F01,11F36-11F3A,11F40,11F42,11F"
  ++ "5A,13430-13440,13447-13455,1611E-16129,1612D-1612F,16AF0-16AF4,16B30-16B36,16B40-16B43,16D40-16D"
  ++ "42,16D6B-16D6C,16F4F,16F8F-16F9F,16FE0-16FE1,16FE3-16FE4,16FF2-16FF3,1AFF0-1AFF3,1AFF5-1AFFB,1AF"
  ++ "FD-1AFFE,1BC9D-1BC9E,1BCA0-1BCA3,1CF00-1CF2D,1CF30-1CF46,1D127,1D167-1D169,1D173-1D182,1D185-1D1"
  ++ "8B,1D1AA-1D1AD,1D242-1D244,1DA00-1DA36,1DA3B-1DA6C,1DA75,1DA84,1DA9B-1DA9F,1DAA1-1DAAF,1E000-1E0"
  ++ "06,1E008-1E018,1E01B-1E021,1E023-1E024,1E026-1E02A,1E030-1E06D,1E08F,1E130-1E13D,1E2AE,1E2EC-1E2"
  ++ "EF,1E4EB-1E4EF,1E5EE-1E5EF,1E8D0-1E8D6,1E944-1E94B,1F3FB-1F3FF,E0001,E0020-E007F,E0100-E01EF"

/-- The code point ranges of the property, decoded once. -/
def isCaseIgnorableTable : Array (Nat × Nat) := decodeRanges isCaseIgnorableText

/-- Whether a character has the Unicode `Case_Ignorable` property. -/
def isCaseIgnorable (c : Char) : Bool := inRanges isCaseIgnorableTable c.toNat

end Unicode

end Schemata
