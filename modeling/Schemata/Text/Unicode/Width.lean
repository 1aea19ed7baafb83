import Schemata.Text.Unicode.WideWidth
import Schemata.Text.Unicode.ZeroWidth
import Schemata.Text.Unicode.Emoji
import Schemata.Text.Unicode.Joining

/-!
# Display width

How many terminal columns text takes.

A character alone takes two columns when it is East Asian wide or fullwidth or
an emoji shown as emoji by default, none when it is of no width (see
`isZeroWidth`), and one otherwise; the Khmer independent vowel `ឤ` takes two
and the Khmer sign `៘` three. Control characters have no width of their own
(`charWidth?` is `none`).

In a text, sequences that render as one glyph count as that glyph:

* a line feed after a carriage return, and every control, takes one column;
* a character with an emoji style followed by `U+FE0F` takes two columns, a
  default emoji followed by `U+FE0E` (not an enclosed ideograph) one, and a
  curly quotation mark followed by `U+FE01` two;
* an emoji with a skin tone modifier, a pair of regional indicators and an emoji
  ZWJ sequence take two columns in all;
* a Lam and an Alef with transparent marks between them, the Hebrew Alef-ZWJ-
  Lamed, the Buginese ⟨a, -i⟩ ZWJ ya, the Old Turkic Orkhon Ec-ZWJ-I, a Lisu tone
  letter pair, two Tifinagh consonants joined by the consonant joiner or a ZWJ,
  and the canonical spellings of the Kirat Rai vowel signs AI, O and AU each take
  one column; a Khmer coeng sign with the consonant after it takes none.
  Default-ignorable combining marks and ZWJs inside the ligatures other than the
  Arabic one do not break them, nor a variation selector waiting after them.
* Kirat Rai vowel signs count as their canonical decompositions into AA and E
  would: an E joins the AA or E before it, so AI then E takes two columns and
  O, AI, E takes two as well (AU, AI).

The text is read from its end: `step` gives each character its columns from the
`Context` that the characters after it set up, and the context it leaves for
the character before.
-/

namespace Schemata

namespace Unicode

/-- A variation selector waiting for the character it modifies. -/
inductive Presentation where
  /-- `U+FE0E`, the text style. -/
  | text
  /-- `U+FE0F`, the emoji style. -/
  | emoji
  /-- `U+FE01`, the second standardized variant: a wide quotation mark. -/
  | wideQuote
deriving DecidableEq, Repr, Inhabited

/-- A script ligature that the characters after a position have begun. -/
inductive Ligature where
  /-- A letter of the Arabic joining group Alef, perhaps after marks. -/
  | alef
  /-- The Hebrew letter Lamed; `joined` once a ZWJ stands before it. -/
  | hebrewLamed (joined : Bool)
  /-- The Buginese letter Ya; `joined` once a ZWJ stands before it. -/
  | bugineseYa (joined : Bool)
  /-- The Buginese vowel sign I, a ZWJ and Ya. -/
  | bugineseIYa
  /-- A Tifinagh consonant; `joined` once a ZWJ stands before it. -/
  | tifinagh (joined : Bool)
  /-- The Tifinagh consonant joiner before a consonant. -/
  | tifinaghJoiner
  /-- A Lisu tone letter that a second tone letter may precede. -/
  | lisuTone
  /-- The Old Turkic letter Orkhon I; `joined` once a ZWJ stands before it. -/
  | oldTurkicI (joined : Bool)
  /-- A Khmer consonant that a coeng sign may precede. -/
  | khmerLetter
deriving DecidableEq, Repr, Inhabited

namespace Ligature

/-- The ligature once a ZWJ stands before what it has read. -/
def join : Ligature → Ligature
  | hebrewLamed _ => hebrewLamed true
  | bugineseYa _ => bugineseYa true
  | tifinagh _ => tifinagh true
  | oldTurkicI _ => oldTurkicI true
  | l => l

end Ligature

/-- What the characters after a position mean for the character there. -/
inductive Context where
  /-- Nothing that changes the character's width. -/
  | plain
  /-- A line feed. -/
  | lineFeed
  /-- A variation selector. -/
  | selector (p : Presentation)
  /-- A ligature begun, with a variation selector that may stand inside it. -/
  | ligature (l : Ligature) (p : Option Presentation)
  /-- An emoji. -/
  | emoji
  /-- A skin tone modifier. -/
  | emojiModifier
  /-- A regional indicator; `several` for more than one in a row. -/
  | regional (several : Bool)
  /-- A ZWJ and an emoji, perhaps after a keycap mark and an emoji style
  selector. -/
  | zwjEmoji (keycap emojiStyle : Bool)
  /-- A regional indicator, a ZWJ and an emoji. -/
  | regionalZwj
  /-- Pairs of regional indicators, a ZWJ and an emoji; `odd` when one more
  indicator stands before the pairs. -/
  | regionalPairsZwj (odd : Bool)
  /-- A cancel tag, a ZWJ and an emoji. -/
  | tagEnd
  /-- Tag digits, a cancel tag, a ZWJ and an emoji. -/
  | tagDigits (count : Nat)
  /-- Tag letters, a cancel tag, a ZWJ and an emoji. -/
  | tagLetters (count : Nat)
  /-- The Kirat Rai vowel sign E. -/
  | kiratE
  /-- The Kirat Rai vowel sign AI, or two vowel signs E. -/
  | kiratAi
deriving DecidableEq, Repr, Inhabited

namespace Context

/-- The variation selector waiting in a context, if any. -/
def presentation? : Context → Option Presentation
  | selector p => some p
  | ligature _ p => p
  | zwjEmoji _ true => some .emoji
  | _ => none

/-- Whether an emoji style selector waits inside a ZWJ sequence, where the
emoji it styles adds no columns of its own. -/
def styledInSequence : Context → Bool
  | zwjEmoji _ true => true
  | _ => false

/-- Add a variation selector: a ligature keeps it beside what it has read, a
ZWJ sequence takes the emoji style, and anything else gives way to it. -/
def withSelector (p : Presentation) : Context → Context
  | ligature l _ => ligature l (some p)
  | zwjEmoji k _ => if p == .emoji then zwjEmoji k true else selector p
  | _ => selector p

/-- Drop a variation selector that the character before it does not take. -/
def withoutSelector : Context → Context
  | ligature l _ => ligature l none
  | _ => plain

end Context

/-- Whether a code point is a regional indicator symbol. -/
def isRegionalIndicator (n : Nat) : Bool := 0x1F1E6 ≤ n && n ≤ 0x1F1FF

/-- Whether a code point is an emoji skin tone modifier. -/
def isSkinTone (n : Nat) : Bool := 0x1F3FB ≤ n && n ≤ 0x1F3FF

/-- Whether a code point is a Tifinagh consonant. -/
def isTifinaghConsonant (n : Nat) : Bool := (0x2D31 ≤ n && n ≤ 0x2D65) || n == 0x2D6F

/-- Whether a code point is a Khmer consonant whose subscript form, after a
coeng sign, takes no column. -/
def isKhmerCoengLetter (n : Nat) : Bool :=
  (0x1780 ≤ n && n ≤ 0x1782) || (0x1784 ≤ n && n ≤ 0x1787) || (0x1789 ≤ n && n ≤ 0x178C) ||
    (0x178E ≤ n && n ≤ 0x1793) || (0x1795 ≤ n && n ≤ 0x1798) || (0x179B ≤ n && n ≤ 0x179D) ||
    (0x17A0 ≤ n && n ≤ 0x17A2)

/-- Whether a code point is a curly quotation mark, which `U+FE01` makes wide. -/
def isCurlyQuote (n : Nat) : Bool := n == 0x2018 || n == 0x2019 || n == 0x201C || n == 0x201D

/-- Whether a code point is a default-ignorable combining mark, which does not
break a ligature. -/
def isLigatureTransparent (n : Nat) : Bool :=
  n == 0x034F || (0x17B4 ≤ n && n ≤ 0x17B5) || (0x180B ≤ n && n ≤ 0x180D) || n == 0x180F ||
    (0xFE00 ≤ n && n ≤ 0xFE0F) || (0xE0100 ≤ n && n ≤ 0xE01EF)

/-- Whether a code point is a tag letter `a` to `z`. -/
def isTagLetter (n : Nat) : Bool := 0xE0061 ≤ n && n ≤ 0xE007A

/-- Whether a code point is a tag digit `0` to `9`. -/
def isTagDigit (n : Nat) : Bool := 0xE0030 ≤ n && n ≤ 0xE0039

/-- The columns of a character with nothing special around it. -/
def baseWidth (c : Char) : Int :=
  if isZeroWidth c then 0
  else if c.toNat == 0x17A4 then 2
  else if isWide c then 2
  else 1

/-- The columns a character takes alone and the context it starts for the
character before it. -/
def classify (c : Char) : Int × Context :=
  let n := c.toNat
  if n == 0x0A then (1, .lineFeed)
  else if n == 0x05DC then (1, .ligature (.hebrewLamed false) none)
  else if isAlefGroup c then (1, .ligature .alef none)
  else if isKhmerCoengLetter n then (1, .ligature .khmerLetter none)
  else if n == 0x17D8 then (3, .plain)
  else if n == 0x1A10 then (1, .ligature (.bugineseYa false) none)
  else if isTifinaghConsonant n then (1, .ligature (.tifinagh false) none)
  else if n == 0xA4FC || n == 0xA4FD then (1, .ligature .lisuTone none)
  else if n == 0xFE01 then (0, .selector .wideQuote)
  else if n == 0xFE0E then (0, .selector .text)
  else if n == 0xFE0F then (0, .selector .emoji)
  else if n == 0x10C03 then (1, .ligature (.oldTurkicI false) none)
  else if n == 0x16D67 then (1, .kiratE)
  else if n == 0x16D68 then (1, .kiratAi)
  else if isRegionalIndicator n then (1, .regional false)
  else if isSkinTone n then (2, .emojiModifier)
  else if isEmojiPresentation c then (2, .emoji)
  else (baseWidth c, .plain)

/-- A ZWJ or a default-ignorable combining mark passes through a ligature
other than the Arabic one: the ligature stays begun. -/
def throughLigature (c : Char) : Context → Option Context
  | .ligature l p =>
    if l == .alef then none
    else if c.toNat == 0x200D then some (.ligature l.join p)
    else if isLigatureTransparent c.toNat then some (.ligature l p)
    else none
  | _ => none

/-- The character that completes or continues a sequence begun after it: its
columns (negative where the sequence takes back a column already counted) and
the context it leaves; `none` when it belongs to no such sequence. -/
def joined (c : Char) (next : Context) : Option (Int × Context) :=
  let n := c.toNat
  let zwj := n == 0x200D
  match next with
  | .ligature .alef _ =>
    if isLamGroup c then some (0, .plain)
    else if isJoinTransparent c && (classify c).1 == 0 then some (0, next)
    else none
  | .ligature (.hebrewLamed true) _ => if n == 0x05D0 then some (0, .plain) else none
  | .ligature .khmerLetter _ => if n == 0x17D2 then some (-1, .plain) else none
  | .ligature (.bugineseYa true) _ =>
    if n == 0x1A17 then some (0, .ligature .bugineseIYa none) else none
  | .ligature .bugineseIYa _ => if n == 0x1A15 then some (0, .plain) else none
  | .ligature (.tifinagh isJoined) _ =>
    if n == 0x2D7F then some (1, .ligature .tifinaghJoiner none)
    else if isJoined && isTifinaghConsonant n then some (0, .plain)
    else none
  | .ligature .tifinaghJoiner _ => if isTifinaghConsonant n then some (-1, .plain) else none
  | .ligature .lisuTone _ => if 0xA4F8 ≤ n && n ≤ 0xA4FB then some (0, .plain) else none
  | .ligature (.oldTurkicI true) _ => if n == 0x10C32 then some (0, .plain) else none
  | .emojiModifier =>
    if isEmojiModifierBase c then some (0, .emoji)
    else if zwj then some (0, .zwjEmoji false false)
    else none
  | .regional several =>
    if isRegionalIndicator n then some (1, .regional true)
    else if several && zwj then some (0, .zwjEmoji false false)
    else none
  | .emoji => if zwj then some (0, .zwjEmoji false false) else none
  | .regionalPairsZwj odd =>
    if zwj then some (0, .zwjEmoji false false)
    else if isRegionalIndicator n then
      if odd then some (-1, .regionalPairsZwj false) else some (3, .regionalPairsZwj true)
    else none
  | .regionalZwj => if isRegionalIndicator n then some (-1, .regionalPairsZwj false) else none
  | .zwjEmoji false false =>
    if n == 0x20E3 then some (0, .zwjEmoji true false)
    else if isRegionalIndicator n then some (1, .regionalZwj)
    else if isSkinTone n then some (0, .emojiModifier)
    else if n == 0xE007F then some (0, .tagEnd)
    else if (classify c).2 == .emoji then some (0, .emoji)
    else none
  | .tagEnd =>
    if isTagLetter n then some (0, .tagLetters 1)
    else if isTagDigit n then some (0, .tagDigits 1)
    else none
  | .tagLetters k =>
    if isTagLetter n && k < 6 then some (0, .tagLetters (k + 1))
    else if n == 0x1F3F4 && 3 ≤ k then some (0, .emoji)
    else none
  | .tagDigits k =>
    if isTagDigit n && k < 3 then some (0, .tagDigits (k + 1))
    else if n == 0x1F3F4 then some (0, .emoji)
    else none
  | .kiratE =>
    if n == 0x16D63 || n == 0x16D69 then some (0, .plain)
    else if n == 0x16D67 then some (0, .kiratAi)
    else if n == 0x16D68 then some (1, .kiratE)
    else none
  | .kiratAi => if n == 0x16D63 then some (0, .plain) else none
  | _ => none

/-- The columns a character adds to a text, read from the end, given the
context set up by the characters after it, and the context it leaves. -/
def step (c : Char) (next : Context) : Int × Context :=
  let n := c.toNat
  if next.presentation? == some .emoji && hasEmojiStyle c then
    (if next.styledInSequence then 0 else 2, .emoji)
  else
  let next := if next.presentation? == some .emoji then next.withoutSelector else next
  if n ≤ 0xA0 then
    if n == 0x0A then (1, .lineFeed)
    else if n == 0x0D && next == .lineFeed then (0, .plain)
    else (1, .plain)
  else if n == 0xFE0F then (0, next.withSelector .emoji)
  else if n == 0xFE0E then (0, next.withSelector .text)
  else
  match throughLigature c next with
  | some ctx => (0, ctx)
  | none =>
  if n == 0xFE01 then (0, next.withSelector .wideQuote)
  else if next.presentation? == some .text && hasTextStyle c then (1, .plain)
  else
  let next := if next.presentation? == some .text then next.withoutSelector else next
  if next.presentation? == some .wideQuote && isCurlyQuote n then (2, .plain)
  else
  let next := if next.presentation? == some .wideQuote then next.withoutSelector else next
  (joined c next).getD (classify c)

/-- The columns of a list of characters and the context its first character
leaves. -/
def widthAndContext (cs : List Char) : Int × Context :=
  cs.foldr (fun c (sum, next) => let (w, ctx) := step c next; (sum + w, ctx)) (0, .plain)

/-- The columns a printable character takes alone; `none` for controls. -/
def charWidth? (c : Char) : Option Nat :=
  let n := c.toNat
  if n < 0x20 then none
  else if n < 0x7F then some 1
  else if n < 0xA0 then none
  else some (classify c).1.toNat

/-- The columns a text takes. -/
def textWidth (s : String) : Nat := (widthAndContext s.toList).1.toNat

end Unicode

end Schemata
