import Schemata.Text.Unicode.Ranges

/-!
# Upper case letters

The Unicode `Uppercase` property (Unicode 17.0): general category `Lu` together
with the other upper-case characters (such as the circled capital letters). A
Ruby constant starts with such a character.
-/

namespace Schemata

namespace Unicode

/-- The code point ranges of the property, as compact hexadecimal text. -/
def isUppercaseText : String :=
  "41-5A,C0-D6,D8-DE,100,102,104,106,108,10A,10C,10E,110,112,114,116,118,11A,11C,11E,120,122,124,12"
  ++ "6,128,12A,12C,12E,130,132,134,136,139,13B,13D,13F,141,143,145,147,14A,14C,14E,150,152,154,156,15"
  ++ "8,15A,15C,15E,160,162,164,166,168,16A,16C,16E,170,172,174,176,178-179,17B,17D,181-182,184,186-18"
  ++ "7,189-18B,18E-191,193-194,196-198,19C-19D,19F-1A0,1A2,1A4,1A6-1A7,1A9,1AC,1AE-1AF,1B1-1B3,1B5,1B"
  ++ "7-1B8,1BC,1C4,1C7,1CA,1CD,1CF,1D1,1D3,1D5,1D7,1D9,1DB,1DE,1E0,1E2,1E4,1E6,1E8,1EA,1EC,1EE,1F1,1F"
  ++ "4,1F6-1F8,1FA,1FC,1FE,200,202,204,206,208,20A,20C,20E,210,212,214,216,218,21A,21C,21E,220,222,22"
  ++ "4,226,228,22A,22C,22E,230,232,23A-23B,23D-23E,241,243-246,248,24A,24C,24E,370,372,376,37F,386,38"
  ++ "8-38A,38C,38E-38F,391-3A1,3A3-3AB,3CF,3D2-3D4,3D8,3DA,3DC,3DE,3E0,3E2,3E4,3E6,3E8,3EA,3EC,3EE,3F"
  ++ "4,3F7,3F9-3FA,3FD-42F,460,462,464,466,468,46A,46C,46E,470,472,474,476,478,47A,47C,47E,480,48A,48"
  ++ "C,48E,490,492,494,496,498,49A,49C,49E,4A0,4A2,4A4,4A6,4A8,4AA,4AC,4AE,4B0,4B2,4B4,4B6,4B8,4BA,4B"
  ++ "C,4BE,4C0-4C1,4C3,4C5,4C7,4C9,4CB,4CD,4D0,4D2,4D4,4D6,4D8,4DA,4DC,4DE,4E0,4E2,4E4,4E6,4E8,4EA,4E"
  ++ "C,4EE,4F0,4F2,4F4,4F6,4F8,4FA,4FC,4FE,500,502,504,506,508,50A,50C,50E,510,512,514,516,518,51A,51"
  ++ "C,51E,520,522,524,526,528,52A,52C,52E,531-556,10A0-10C5,10C7,10CD,13A0-13F5,1C89,1C90-1CBA,1CBD-"
  ++ "1CBF,1E00,1E02,1E04,1E06,1E08,1E0A,1E0C,1E0E,1E10,1E12,1E14,1E16,1E18,1E1A,1E1C,1E1E,1E20,1E22,1"
  ++ "E24,1E26,1E28,1E2A,1E2C,1E2E,1E30,1E32,1E34,1E36,1E38,1E3A,1E3C,1E3E,1E40,1E42,1E44,1E46,1E48,1E"
  ++ "4A,1E4C,1E4E,1E50,1E52,1E54,1E56,1E58,1E5A,1E5C,1E5E,1E60,1E62,1E64,1E66,1E68,1E6A,1E6C,1E6E,1E7"
  ++ "0,1E72,1E74,1E76,1E78,1E7A,1E7C,1E7E,1E80,1E82,1E84,1E86,1E88,1E8A,1E8C,1E8E,1E90,1E92,1E94,1E9E"
  ++ ",1EA0,1EA2,1EA4,1EA6,1EA8,1EAA,1EAC,1EAE,1EB0,1EB2,1EB4,1EB6,1EB8,1EBA,1EBC,1EBE,1EC0,1EC2,1EC4,"
  ++ "1EC6,1EC8,1ECA,1ECC,1ECE,1ED0,1ED2,1ED4,1ED6,1ED8,1EDA,1EDC,1EDE,1EE0,1EE2,1EE4,1EE6,1EE8,1EEA,1"
  ++ "EEC,1EEE,1EF0,1EF2,1EF4,1EF6,1EF8,1EFA,1EFC,1EFE,1F08-1F0F,1F18-1F1D,1F28-1F2F,1F38-1F3F,1F48-1F"
  ++ "4D,1F59,1F5B,1F5D,1F5F,1F68-1F6F,1FB8-1FBB,1FC8-1FCB,1FD8-1FDB,1FE8-1FEC,1FF8-1FFB,2102,2107,210"
  ++ "B-210D,2110-2112,2115,2119-211D,2124,2126,2128,212A-212D,2130-2133,213E-213F,2145,2160-216F,2183"
  ++ ",24B6-24CF,2C00-2C2F,2C60,2C62-2C64,2C67,2C69,2C6B,2C6D-2C70,2C72,2C75,2C7E-2C80,2C82,2C84,2C86,"
  ++ "2C88,2C8A,2C8C,2C8E,2C90,2C92,2C94,2C96,2C98,2C9A,2C9C,2C9E,2CA0,2CA2,2CA4,2CA6,2CA8,2CAA,2CAC,2"
  ++ "CAE,2CB0,2CB2,2CB4,2CB6,2CB8,2CBA,2CBC,2CBE,2CC0,2CC2,2CC4,2CC6,2CC8,2CCA,2CCC,2CCE,2CD0,2CD2,2C"
  ++ "D4,2CD6,2CD8,2CDA,2CDC,2CDE,2CE0,2CE2,2CEB,2CED,2CF2,A640,A642,A644,A646,A648,A64A,A64C,A64E,A65"
  ++ "0,A652,A654,A656,A658,A65A,A65C,A65E,A660,A662,A664,A666,A668,A66A,A66C,A680,A682,A684,A686,A688"
  ++ ",A68A,A68C,A68E,A690,A692,A694,A696,A698,A69A,A722,A724,A726,A728,A72A,A72C,A72E,A732,A734,A736,"
  ++ "A738,A73A,A73C,A73E,A740,A742,A744,A746,A748,A74A,A74C,A74E,A750,A752,A754,A756,A758,A75A,A75C,A"
  ++ "75E,A760,A762,A764,A766,A768,A76A,A76C,A76E,A779,A77B,A77D-A77E,A780,A782,A784,A786,A78B,A78D,A7"
  ++ "90,A792,A796,A798,A79A,A79C,A79E,A7A0,A7A2,A7A4,A7A6,A7A8,A7AA-A7AE,A7B0-A7B4,A7B6,A7B8,A7BA,A7B"
  ++ "C,A7BE,A7C0,A7C2,A7C4-A7C7,A7C9,A7CB-A7CC,A7CE,A7D0,A7D2,A7D4,A7D6,A7D8,A7DA,A7DC,A7F5,FF21-FF3A"
  ++ ",10400-10427,104B0-104D3,10570-1057A,1057C-1058A,1058C-10592,10594-10595,10C80-10CB2,10D50-10D65"
  ++ ",118A0-118BF,16E40-16E5F,16EA0-16EB8,1D400-1D419,1D434-1D44D,1D468-1D481,1D49C,1D49E-1D49F,1D4A2"
  ++ ",1D4A5-1D4A6,1D4A9-1D4AC,1D4AE-1D4B5,1D4D0-1D4E9,1D504-1D505,1D507-1D50A,1D50D-1D514,1D516-1D51C"
  ++ ",1D538-1D539,1D53B-1D53E,1D540-1D544,1D546,1D54A-1D550,1D56C-1D585,1D5A0-1D5B9,1D5D4-1D5ED,1D608"
  ++ "-1D621,1D63C-1D655,1D670-1D689,1D6A8-1D6C0,1D6E2-1D6FA,1D71C-1D734,1D756-1D76E,1D790-1D7A8,1D7CA"
  ++ ",1E900-1E921,1F130-1F149,1F150-1F169,1F170-1F189"

/-- The code point ranges of the property, decoded once. -/
def isUppercaseTable : Array (Nat × Nat) := decodeRanges isUppercaseText

/-- Whether a character has the Unicode `Uppercase` property. ASCII takes the short way: its
uppercase characters are the capital letters. -/
def isUppercase (c : Char) : Bool :=
  if c.toNat < 0x80 then c.isUpper else inRanges isUppercaseTable c.toNat

end Unicode

end Schemata
