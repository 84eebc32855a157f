import AzcRepair.Text.Column
import AzcRepair.Text.Emoji

/-!
# Display width

The number of terminal columns that a text takes. Characters are not all drawn side by side: an
emoji takes a skin tone, joined emoji make one picture, two regional indicators a flag, and some
scripts draw letters as one. A text is therefore measured from its end, and every character is
judged by what follows it.
-/

namespace AzcRepair.Text

/-- Unseen code points over which Arabic letters do not join. -/
def separatingRanges : List (Nat × Nat) :=
  [(0x605, 0x605), (0x890, 0x891), (0x8E2, 0x8E2), (0x9BE, 0x9BE), (0x9D7, 0x9D7), (0xB3E, 0xB3E),
  (0xB57, 0xB57), (0xBBE, 0xBBE), (0xBD7, 0xBD7), (0xCC0, 0xCC0), (0xCC2, 0xCC2), (0xCC7, 0xCC8),
  (0xCCA, 0xCCB), (0xCD5, 0xCD6), (0xD3E, 0xD3E), (0xD4E, 0xD4E), (0xD57, 0xD57), (0xDCF, 0xDCF),
  (0xDDF, 0xDDF), (0x1160, 0x11FF), (0x1715, 0x1715), (0x1734, 0x1734), (0x180E, 0x180E),
  (0x1B35, 0x1B35), (0x1B3B, 0x1B3B), (0x1B3D, 0x1B3D), (0x1B43, 0x1B44), (0x1BAA, 0x1BAA),
  (0x1BF2, 0x1BF3), (0x200C, 0x200D), (0x2065, 0x2069), (0x302E, 0x302F), (0x3164, 0x3164),
  (0xA8FA, 0xA8FA), (0xA953, 0xA953), (0xA9C0, 0xA9C0), (0xD7B0, 0xD7C6), (0xD7CB, 0xD7FB),
  (0xFF9E, 0xFFA0), (0xFFF0, 0xFFF8), (0x111C0, 0x111C0), (0x111C2, 0x111C3), (0x11235, 0x11235),
  (0x1133E, 0x1133E), (0x1134D, 0x1134D), (0x11357, 0x11357), (0x113B8, 0x113B8),
  (0x113C2, 0x113C2), (0x113C5, 0x113C5), (0x113C7, 0x113C9), (0x113CF, 0x113CF),
  (0x113D1, 0x113D1), (0x114B0, 0x114B0), (0x114BD, 0x114BD), (0x115AF, 0x115AF),
  (0x116B6, 0x116B6), (0x11930, 0x11930), (0x1193D, 0x1193D), (0x1193F, 0x1193F),
  (0x11941, 0x11941), (0x11A3A, 0x11A3A), (0x11A84, 0x11A89), (0x11D46, 0x11D46),
  (0x11F02, 0x11F02), (0x11F41, 0x11F41), (0x16FF0, 0x16FF1), (0x1D165, 0x1D166),
  (0x1D16D, 0x1D172), (0xE0000, 0xE0000), (0xE0002, 0xE001F), (0xE0080, 0xE00FF),
  (0xE01F0, 0xE0FFF)]

/-- The character takes no column, and Arabic letters join over it. -/
def isTransparent (c : Char) : Bool :=
  isUnseen c && !inRanges separatingRanges c

/-- The character is an unseen mark that leaves letters around it joined. -/
def isIdleMark (c : Char) : Bool :=
  inRanges [(0x34F, 0x34F), (0x17B4, 0x17B5), (0x180B, 0x180D), (0x180F, 0x180F), (0x200D, 0x200D),
    (0xFE00, 0xFE0F), (0xE0100, 0xE01EF)] c

/-- The character is a form of the Arabic letter alef. -/
def isAlef (c : Char) : Bool :=
  inRanges [(0x622, 0x623), (0x625, 0x625), (0x627, 0x627), (0x671, 0x673), (0x675, 0x675),
    (0x773, 0x774), (0x870, 0x882)] c

/-- The character is a form of the Arabic letter lam. -/
def isLam (c : Char) : Bool :=
  inRanges [(0x644, 0x644), (0x6B5, 0x6B8), (0x76A, 0x76A), (0x8A6, 0x8A6), (0x8C7, 0x8C7)] c

/-- The character is a Khmer letter that can be written below another one. -/
def isKhmerLetter (c : Char) : Bool :=
  inRanges [(0x1780, 0x1782), (0x1784, 0x1787), (0x1789, 0x178C), (0x178E, 0x1793),
    (0x1795, 0x1798), (0x179B, 0x179D), (0x17A0, 0x17A0), (0x17A2, 0x17A2), (0x17A7, 0x17A7),
    (0x17AB, 0x17AC), (0x17AF, 0x17AF)] c

def isTifinaghConsonant (c : Char) : Bool :=
  inRanges [(0x2D31, 0x2D65), (0x2D6F, 0x2D6F)] c

def isCurvedQuote (c : Char) : Bool :=
  inRanges [(0x2018, 0x2019), (0x201C, 0x201D)] c

def joiner : Char := '\u200D'

/-- A letter that may be drawn as one with those before it. -/
inductive Letter where
  | hebrewLamed
  | bugineseYa
  /-- A Buginese vowel sign that a joiner ties to the letter ya. -/
  | bugineseVowel
  | tifinagh
  /-- A Tifinagh consonant behind its own joiner. -/
  | tifinaghJoined
  | lisuTone
  | orkhonI
  | khmer
  deriving DecidableEq, Repr

/-- What a text begins with, as far as the width of the character before it depends on it. -/
inductive Start where
  | plain
  | lineFeed
  | alef
  /-- A letter, and whether a joiner stands before it. -/
  | letter (letter : Letter) (joined : Bool)
  /-- The Kirat Rai vowel sign e. -/
  | kiratE
  /-- The Kirat Rai vowel sign ai, or two signs that make it. -/
  | kiratAi
  | tone
  | picture
  /-- A regional indicator. -/
  | region
  /-- Several regional indicators. -/
  | regions
  /-- A joiner before a picture. -/
  | joinedPicture
  /-- A key cap before a joined picture. -/
  | joinedKey
  /-- A regional indicator before a joined picture. -/
  | joinedRegion
  /-- Several regional indicators before a joined picture, and whether their number is even. -/
  | joinedRegions (even : Bool)
  /-- Letters of a flag's tag before its end. -/
  | tagLetters (count : Nat)
  /-- Digits of a flag's tag. -/
  | tagDigits (count : Nat)
  deriving DecidableEq, Repr

/-- Which form a variation selector asks for. -/
inductive Form where
  | text
  | picture
  | wide
  deriving DecidableEq, Repr

/-- The beginning of the text behind a character, and the form it asks of that character. -/
structure Behind where
  start : Start := .plain
  form : Option Form := none
  deriving DecidableEq, Repr

namespace Start

/-- A letter lets the character before a selector join it. -/
def isLetter : Start → Bool
  | alef | letter .. => true
  | _ => false

/-- A joiner before a picture, where a form as a picture still belongs to it. -/
def isJoinedPicture : Start → Bool
  | joinedPicture | joinedKey => true
  | _ => false

/-- What a character is the start of, by itself. -/
def of (c : Char) : Start :=
  if isAlef c then alef
  else if c = '\u05DC' then letter .hebrewLamed false
  else if isKhmerLetter c then letter .khmer true
  else if c = '\u1A10' then letter .bugineseYa false
  else if isTifinaghConsonant c then letter .tifinagh false
  else if c = '\uA4FC' || c = '\uA4FD' then letter .lisuTone true
  else if c.toNat = 0x10C03 then letter .orkhonI false
  else if c.toNat = 0x16D67 then kiratE
  else if c.toNat = 0x16D68 then kiratAi
  else if isRegional c then region
  else if isTone c then tone
  else if isPicture c then picture
  else plain

end Start

/-- The columns that a character adds before a letter which it is drawn with, and the start that
both make. -/
def joinLetter (c : Char) : Letter → Bool → Option (Int × Start)
  | .hebrewLamed, true => if c = '\u05D0' then some (0, .plain) else none
  | .khmer, _ => if c = '\u17D2' then some (-1, .plain) else none
  | .bugineseYa, true =>
    if c = '\u1A17' then some (0, .letter .bugineseVowel true) else none
  | .bugineseVowel, _ => if c = '\u1A15' then some (0, .plain) else none
  | .tifinagh, joined =>
    if c = tifinaghJoiner then some (1, .letter .tifinaghJoined true)
    else if joined && isTifinaghConsonant c then some (0, .plain)
    else none
  | .tifinaghJoined, _ => if isTifinaghConsonant c then some (-1, .plain) else none
  | .lisuTone, _ => if inRanges [(0xA4F8, 0xA4FB)] c then some (0, .plain) else none
  | .orkhonI, true => if c.toNat = 0x10C32 then some (0, .plain) else none
  | .hebrewLamed, false | .bugineseYa, false | .orkhonI, false => none

/-- The same before a joined picture. Pictures, skin tones and flags make one picture with it; of
regional indicators every second one completes a flag that does. What can be none of these leaves
the joiner without effect. -/
def joinPicture (c : Char) : Option (Int × Start) :=
  -- the picture behind the joiner is counted by now, so a key cap adds nothing to it
  if c = '\u20E3' then some (0, .joinedKey)
  else if isRegional c then some (1, .joinedRegion)
  else if isTone c then some (0, .tone)
  else if c.toNat = 0xE007F then some (0, .tagLetters 0)
  else if isPicture c then some (0, .picture)
  else none

/-- A character of a flag's tag: digits stand behind letters, at most three, of which there are at
most four then, and the flag stands before three digits or three to six letters. -/
def joinTag (c : Char) : Start → Option (Int × Start)
  | .tagLetters count =>
    if inRanges [(0xE0061, 0xE007A)] c && count < 6 then some (0, .tagLetters (count + 1))
    else if inRanges [(0xE0030, 0xE0039)] c && count < 5 then some (0, .tagDigits 1)
    else if c.toNat = 0x1F3F4 && 3 ≤ count then some (0, .picture)
    else none
  | .tagDigits count =>
    if inRanges [(0xE0030, 0xE0039)] c && count < 3 then some (0, .tagDigits (count + 1))
    else if c.toNat = 0x1F3F4 && count = 3 then some (0, .picture)
    else none
  | _ => none

/-- The columns that a character adds when it is not drawn as by itself, and the start that it then
makes with the text behind it. -/
def join (c : Char) : Start → Option (Int × Start)
  | .alef =>
    if isLam c then some (0, .plain)
    else if isTransparent c then some (0, .alef)
    else none
  | .letter letter joined =>
    if c = joiner then some (0, .letter letter true)
    else if isIdleMark c then some (0, .letter letter joined)
    else joinLetter c letter joined
  | .kiratE =>
    if c.toNat = 0x16D63 || c.toNat = 0x16D69 then some (0, .plain)
    else if c.toNat = 0x16D67 then some (0, .kiratAi)
    else if c.toNat = 0x16D68 then some (1, .kiratE)
    else none
  | .kiratAi => if c.toNat = 0x16D63 then some (0, .plain) else none
  | .tone =>
    if takesTone c then some (0, .picture)
    else if c = joiner then some (0, .joinedPicture)
    else none
  | .picture => if c = joiner then some (0, .joinedPicture) else none
  | .region => if isRegional c then some (1, .regions) else none
  | .regions =>
    if isRegional c then some (1, .regions)
    else if c = joiner then some (0, .joinedPicture)
    else none
  | .joinedPicture => joinPicture c
  | .joinedRegion => if isRegional c then some (-1, .joinedRegions true) else none
  | .joinedRegions even =>
    if isRegional c then some (if even then 3 else -1, .joinedRegions !even)
    else if c = joiner then some (0, .joinedPicture)
    else none
  | .tagLetters count => joinTag c (.tagLetters count)
  | .tagDigits count => joinTag c (.tagDigits count)
  | .plain | .lineFeed | .joinedKey => none

/-- The columns that a character adds before a text, and what both begin with, no form being asked
of the character. -/
def addColumns (c : Char) (start : Start) : Int × Behind :=
  match join c start with
  | some (added, start) => (added, ⟨start, none⟩)
  | none => (columns c, ⟨.of c, none⟩)

/-- The form that a variation selector asks of the character before it, and the start behind the
selector that this character still meets. -/
def select (c : Char) (start : Start) : Option Behind :=
  let kept := if start.isLetter then start else .plain
  if c = '\uFE0F' then
    some ⟨if start.isJoinedPicture then start else kept, some .picture⟩
  else if c = '\uFE0E' then some ⟨kept, some .text⟩
  else if c = '\uFE01' then some ⟨kept, some .wide⟩
  else none

/-- What is left of the text behind a character that has no form as a picture. -/
def dropPicture (behind : Behind) : Behind :=
  if behind.form = some .picture then
    ⟨if behind.start.isLetter then behind.start else .plain, none⟩
  else behind

/-- The columns that a character adds before a text, and what both begin with. -/
def step (c : Char) (behind : Behind) : Int × Behind :=
  if behind.form = some .picture && hasPictureForm c then
    (if behind.start.isJoinedPicture then 0 else 2, ⟨.picture, none⟩)
  else
    let behind := dropPicture behind
    if c = '\n' then (1, ⟨.lineFeed, none⟩)
    else if c = '\r' && behind.start = .lineFeed then (0, {})
    -- apart from the cases above nothing in this range is drawn with what follows it
    else if c.toNat ≤ 0xA0 then (1, {})
    else
      match select c behind.start with
      | some behind => (0, behind)
      | none =>
        if behind.form = some .text && hasNarrowForm c then (1, {})
        else if behind.form = some .wide && isCurvedQuote c then (2, {})
        else addColumns c behind.start

/-- The columns of a list of characters, and what it begins with. The sum may go down for a while,
as a character that is joined gives up columns that were counted for it alone. -/
def measure (chars : List Char) : Int × Behind :=
  chars.foldr (fun c rest => ((step c rest.2).1 + rest.1, (step c rest.2).2)) (0, {})

def width (text : String) : Nat :=
  (measure text.toList).1.toNat

end AzcRepair.Text
