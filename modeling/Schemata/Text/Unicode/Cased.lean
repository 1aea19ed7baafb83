import Schemata.Text.Unicode.Ranges

/-!
# Cased characters

The Unicode `Cased` property (Unicode 17.0), used to find the end of a word
when lowercasing a capital sigma.
-/

namespace Schemata

namespace Unicode

/-- The code point ranges of the property, as compact hexadecimal text. -/
def isCasedText : String :=
  "41-5A,61-7A,AA,B5,BA,C0-D6,D8-F6,F8-1BA,1BC-1BF,1C4-293,296-2B8,2C0-2C1,2E0-2E4,345,370-373,376-"
  ++ "377,37A-37D,37F,386,388-38A,38C,38E-3A1,3A3-3F5,3F7-481,48A-52F,531-556,560-588,10A0-10C5,10C7,1"
  ++ "0CD,10D0-10FA,10FC-10FF,13A0-13F5,13F8-13FD,1C80-1C8A,1C90-1CBA,1CBD-1CBF,1D00-1DBF,1E00-1F15,1F"
  ++ "18-1F1D,1F20-1F45,1F48-1F4D,1F50-1F57,1F59,1F5B,1F5D,1F5F-1F7D,1F80-1FB4,1FB6-1FBC,1FBE,1FC2-1FC"
  ++ "4,1FC6-1FCC,1FD0-1FD3,1FD6-1FDB,1FE0-1FEC,1FF2-1FF4,1FF6-1FFC,2071,207F,2090-209C,2102,2107,210A"
  ++ "-2113,2115,2119-211D,2124,2126,2128,212A-212D,212F-2134,2139,213C-213F,2145-2149,214E,2160-217F,"
  ++ "2183-2184,24B6-24E9,2C00-2CE4,2CEB-2CEE,2CF2-2CF3,2D00-2D25,2D27,2D2D,A640-A66D,A680-A69D,A722-A"
  ++ "787,A78B-A78E,A790-A7DC,A7F1-A7F6,A7F8-A7FA,AB30-AB5A,AB5C-AB69,AB70-ABBF,FB00-FB06,FB13-FB17,FF"
  ++ "21-FF3A,FF41-FF5A,10400-1044F,104B0-104D3,104D8-104FB,10570-1057A,1057C-1058A,1058C-10592,10594-"
  ++ "10595,10597-105A1,105A3-105B1,105B3-105B9,105BB-105BC,10780,10783-10785,10787-107B0,107B2-107BA,"
  ++ "10C80-10CB2,10CC0-10CF2,10D50-10D65,10D70-10D85,118A0-118DF,16E40-16E7F,16EA0-16EB8,16EBB-16ED3,"
  ++ "1D400-1D454,1D456-1D49C,1D49E-1D49F,1D4A2,1D4A5-1D4A6,1D4A9-1D4AC,1D4AE-1D4B9,1D4BB,1D4BD-1D4C3,"
  ++ "1D4C5-1D505,1D507-1D50A,1D50D-1D514,1D516-1D51C,1D51E-1D539,1D53B-1D53E,1D540-1D544,1D546,1D54A-"
  ++ "1D550,1D552-1D6A5,1D6A8-1D6C0,1D6C2-1D6DA,1D6DC-1D6FA,1D6FC-1D714,1D716-1D734,1D736-1D74E,1D750-"
  ++ "1D76E,1D770-1D788,1D78A-1D7A8,1D7AA-1D7C2,1D7C4-1D7CB,1DF00-1DF09,1DF0B-1DF1E,1DF25-1DF2A,1E030-"
  ++ "1E06D,1E900-1E943,1F130-1F149,1F150-1F169,1F170-1F189"

/-- The code point ranges of the property, decoded once. -/
def isCasedTable : Array (Nat × Nat) := decodeRanges isCasedText

/-- Whether a character has the Unicode `Cased` property. -/
def isCased (c : Char) : Bool := inRanges isCasedTable c.toNat

end Unicode

end Schemata
