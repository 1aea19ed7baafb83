import Schemata.Text.Unicode.Ranges

/-!
# Emoji classes

The emoji properties that decide how wide an emoji sequence is (Unicode 17.0):
characters shown as emoji by default, the bases that take a skin tone
modifier, and the characters that have an emoji style (`U+FE0F`) or a text
style (`U+FE0E`) variation sequence.
-/

namespace Schemata

namespace Unicode

/-- The code point ranges of the `Emoji_Presentation` property, as compact hexadecimal text. -/
def isEmojiPresentationText : String :=
  "231A-231B,23E9-23EC,23F0,23F3,25FD-25FE,2614-2615,2648-2653,267F,2693,26A1,26AA-26AB,26BD-26BE,2"
  ++ "6C4-26C5,26CE,26D4,26EA,26F2-26F3,26F5,26FA,26FD,2705,270A-270B,2728,274C,274E,2753-2755,2757,27"
  ++ "95-2797,27B0,27BF,2B1B-2B1C,2B50,2B55,1F004,1F0CF,1F18E,1F191-1F19A,1F1E6-1F1FF,1F201,1F21A,1F22"
  ++ "F,1F232-1F236,1F238-1F23A,1F250-1F251,1F300-1F320,1F32D-1F335,1F337-1F37C,1F37E-1F393,1F3A0-1F3C"
  ++ "A,1F3CF-1F3D3,1F3E0-1F3F0,1F3F4,1F3F8-1F43E,1F440,1F442-1F4FC,1F4FF-1F53D,1F54B-1F54E,1F550-1F56"
  ++ "7,1F57A,1F595-1F596,1F5A4,1F5FB-1F64F,1F680-1F6C5,1F6CC,1F6D0-1F6D2,1F6D5-1F6D9,1F6DC-1F6DF,1F6E"
  ++ "B-1F6EC,1F6F4-1F6FC,1F7E0-1F7EB,1F7F0,1F90C-1F93A,1F93C-1F945,1F947-1F9FF,1FA70-1FA7C,1FA80-1FA8"
  ++ "B,1FA8E-1FAC6,1FAC8,1FACD-1FADD,1FADF-1FAEA,1FAEF-1FAF8"

/-- The code point ranges of the `Emoji_Presentation` property, decoded once. -/
def isEmojiPresentationTable : Array (Nat × Nat) := decodeRanges isEmojiPresentationText

/-- Whether a character is shown as an emoji by default. -/
def isEmojiPresentation (c : Char) : Bool := inRanges isEmojiPresentationTable c.toNat

/-- The code point ranges of the `Emoji_Modifier_Base` property, as compact hexadecimal text. -/
def isEmojiModifierBaseText : String :=
  "261D,26F9,270A-270D,1F385,1F3C2-1F3C4,1F3C7,1F3CA-1F3CC,1F442-1F443,1F446-1F450,1F466-1F478,1F47"
  ++ "C,1F481-1F483,1F485-1F487,1F48F,1F491,1F4AA,1F574-1F575,1F57A,1F590,1F595-1F596,1F645-1F647,1F64"
  ++ "B-1F64F,1F6A3,1F6B4-1F6B6,1F6C0,1F6CC,1F90C,1F90F,1F918-1F91F,1F926,1F930-1F939,1F93C-1F93E,1F97"
  ++ "7,1F9B5-1F9B6,1F9B8-1F9B9,1F9BB,1F9CD-1F9CF,1F9D1-1F9DD,1FAC3-1FAC5,1FAF0-1FAF8"

/-- The code point ranges of the `Emoji_Modifier_Base` property, decoded once. -/
def isEmojiModifierBaseTable : Array (Nat × Nat) := decodeRanges isEmojiModifierBaseText

/-- Whether a skin tone modifier may follow a character. -/
def isEmojiModifierBase (c : Char) : Bool := inRanges isEmojiModifierBaseTable c.toNat

/-- The code point ranges of the characters with an emoji style variation sequence, as compact hexadecimal text. -/
def hasEmojiStyleText : String :=
  "23,2A,30-39,A9,AE,203C,2049,2122,2139,2194-2199,21A9-21AA,231A-231B,2328,23CF,23E9-23F3,23F8-23F"
  ++ "A,24C2,25AA-25AB,25B6,25C0,25FB-25FE,2600-2604,260E,2611,2614-2615,2618,261D,2620,2622-2623,2626"
  ++ ",262A,262E-262F,2638-263A,2640,2642,2648-2653,265F-2660,2663,2665-2666,2668,267B,267E-267F,2692-"
  ++ "2697,2699,269B-269C,26A0-26A1,26A7,26AA-26AB,26B0-26B1,26BD-26BE,26C4-26C5,26C8,26CE-26CF,26D1,2"
  ++ "6D3-26D4,26E9-26EA,26F0-26F5,26F7-26FA,26FD,2702,2705,2708-270D,270F,2712,2714,2716,271D,2721,27"
  ++ "28,2733-2734,2744,2747,274C,274E,2753-2755,2757,2763-2764,2795-2797,27A1,27B0,27BF,2934-2935,2B0"
  ++ "5-2B07,2B1B-2B1C,2B50,2B55,3030,303D,3297,3299,1F004,1F170-1F171,1F17E-1F17F,1F202,1F21A,1F22F,1"
  ++ "F237,1F30D-1F30F,1F315,1F31C,1F321,1F324-1F32C,1F336,1F378,1F37D,1F393,1F396-1F397,1F399-1F39B,1"
  ++ "F39E-1F39F,1F3A7,1F3AC-1F3AE,1F3C2,1F3C4,1F3C6,1F3CA-1F3CE,1F3D4-1F3E0,1F3ED,1F3F3,1F3F5,1F3F7,1"
  ++ "F408,1F415,1F41F,1F426,1F43F,1F441-1F442,1F446-1F449,1F44D-1F44E,1F453,1F46A,1F47D,1F4A3,1F4B0,1"
  ++ "F4B3,1F4B9,1F4BB,1F4BF,1F4C8-1F4CB,1F4D6,1F4DA,1F4DF,1F4E4-1F4E6,1F4EA-1F4ED,1F4F7,1F4F9-1F4FB,1"
  ++ "F4FD,1F508,1F50D,1F512-1F513,1F549-1F54A,1F550-1F567,1F56F-1F570,1F573-1F579,1F587,1F58A-1F58D,1"
  ++ "F590,1F5A5,1F5A8,1F5B1-1F5B2,1F5BC,1F5C2-1F5C4,1F5D1-1F5D3,1F5DC-1F5DE,1F5E1,1F5E3,1F5E8,1F5EF,1"
  ++ "F5F3,1F5FA,1F610,1F687,1F68D,1F691,1F694,1F698,1F6AD,1F6B2,1F6B9-1F6BA,1F6BC,1F6CB,1F6CD-1F6CF,1"
  ++ "F6E0-1F6E5,1F6E9,1F6F0,1F6F3"

/-- The code point ranges of the characters with an emoji style variation sequence, decoded once. -/
def hasEmojiStyleTable : Array (Nat × Nat) := decodeRanges hasEmojiStyleText

/-- Whether `U+FE0F` after a character asks for its emoji form. ASCII takes the short way: only
`#`, `*` and the digits have one. -/
def hasEmojiStyle (c : Char) : Bool :=
  if c.toNat < 0x80 then c == '#' || c == '*' || c.isDigit
  else inRanges hasEmojiStyleTable c.toNat

/-- The code point ranges of the emoji shown as emoji by default that have a text style variation
sequence, the enclosed ideographs excepted,, as compact hexadecimal text. -/
def hasTextStyleText : String :=
  "231A-231B,23E9-23EC,23F0,23F3,25FD-25FE,2614-2615,2648-2653,267F,2693,26A1,26AA-26AB,26BD-26BE,2"
  ++ "6C4-26C5,26CE,26D4,26EA,26F2-26F3,26F5,26FA,26FD,2705,270A-270B,2728,274C,274E,2753-2755,2757,27"
  ++ "95-2797,27B0,27BF,2B1B-2B1C,2B50,2B55,1F004,1F30D-1F30F,1F315,1F31C,1F378,1F393,1F3A7,1F3AC-1F3A"
  ++ "E,1F3C2,1F3C4,1F3C6,1F3CA,1F3E0,1F3ED,1F408,1F415,1F41F,1F426,1F442,1F446-1F449,1F44D-1F44E,1F45"
  ++ "3,1F46A,1F47D,1F4A3,1F4B0,1F4B3,1F4B9,1F4BB,1F4BF,1F4C8-1F4CB,1F4D6,1F4DA,1F4DF,1F4E4-1F4E6,1F4E"
  ++ "A-1F4ED,1F4F7,1F4F9-1F4FB,1F508,1F50D,1F512-1F513,1F550-1F567,1F610,1F687,1F68D,1F691,1F694,1F69"
  ++ "8,1F6AD,1F6B2,1F6B9-1F6BA,1F6BC"

/-- The code point ranges of the emoji shown as emoji by default that have a text style variation
sequence, the enclosed ideographs excepted,, decoded once. -/
def hasTextStyleTable : Array (Nat × Nat) := decodeRanges hasTextStyleText

/-- Whether `U+FE0E` after a default emoji, not an enclosed ideograph, asks
for its one-column text form. -/
def hasTextStyle (c : Char) : Bool := inRanges hasTextStyleTable c.toNat

end Unicode

end Schemata
