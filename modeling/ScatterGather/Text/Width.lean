import ScatterGather.Text.EmojiTable
import ScatterGather.Text.Ranges
import ScatterGather.Text.WidthTable

/-!
# Text/Width — the columns of a text on a terminal

A character alone takes none, one, two or (one sign) three columns.  In a text, some characters join
with what stands after them: emoji sequences make one picture, some scripts one ligature.
`displayWidth` therefore goes from the last character to the first, and `After` is what a character
has to know of those behind it.  A joined character may take back columns that were counted before
it was seen.
-/

namespace ScatterGather.Text

/-- The joiner that makes one picture of two. -/
def joiner : Char := '\u200d'

/-- The columns of a character by itself; controls take one. -/
def charWidth (c : Char) : Nat :=
  if c.toNat ≤ 0xa0 then 1
  else if c.toNat = 0x17d8 then 3
  else if inRanges wideRanges c.toNat then 2
  else if inRanges bareRanges c.toNat then 0
  else 1

/-- Letters that join with one before them.  `joined` says that a joiner stands between. -/
inductive Ligature where
  | alef
  | lamed (joined : Bool)
  | buginese (joined : Bool)
  | bugineseVowel
  | khmer
  | kiratE
  | kiratAi
  | lisu
  | orkhon (joined : Bool)
  | tifinagh (joined : Bool)
  | tifinaghJoiner
  deriving DecidableEq

/-- Characters that choose the form of the one before them. -/
inductive Selector where
  | fullWidth
  | textStyle
  | emojiStyle
  deriving DecidableEq

/-- What stands after a character. -/
inductive After where
  | plain
  | lineFeed
  | selector (s : Selector)
  | ligature (l : Ligature) (s : Option Selector)
  | picture
  | tone
  | flagLetter
  | flagLetters
  | joinedPicture (keycap styled : Bool)
  | joinedFlagLetter
  | joinedFlags (odd : Bool)
  | tagEnd (letters : Nat)
  | tagDigits (digits : Nat)
  deriving DecidableEq

/-- The selector that a character is. -/
def Selector.of? (c : Char) : Option Selector :=
  if c = '\ufe0f' then some emojiStyle
  else if c = '\ufe0e' then some textStyle
  else if c = '\ufe01' then some fullWidth
  else none

/-- Whether a character is a letter of a flag. -/
def isFlagLetter (c : Char) : Bool := 0x1f1e6 ≤ c.toNat && c.toNat ≤ 0x1f1ff

/-- Whether a character is a skin tone. -/
def isTone (c : Char) : Bool := 0x1f3fb ≤ c.toNat && c.toNat ≤ 0x1f3ff

/-- Whether a character is a picture by itself. -/
def isPicture (c : Char) : Bool := inRanges pictureRanges c.toNat

/-- Whether a character is one of the curved quotation marks. -/
def isCurvedQuote (c : Char) : Bool := c ∈ ['\u2018', '\u2019', '\u201c', '\u201d']

/-- Whether a character is a Tifinagh consonant. -/
def isTifinagh (c : Char) : Bool :=
  (0x2d31 ≤ c.toNat && c.toNat ≤ 0x2d65) || c.toNat = 0x2d6f

/-- The letters that an alef joins with. -/
def lamRanges : List (Nat × Nat) :=
  [(0x644, 0x644), (0x6b5, 0x6b8), (0x76a, 0x76a), (0x8a6, 0x8a6), (0x8c7, 0x8c7)]

/-- The alefs. -/
def alefRanges : List (Nat × Nat) :=
  [(0x622, 0x623), (0x625, 0x625), (0x627, 0x627), (0x671, 0x673), (0x675, 0x675),
    (0x773, 0x774), (0x870, 0x882)]

/-- The Khmer letters that take a subscript form. -/
def khmerRanges : List (Nat × Nat) :=
  [(0x1780, 0x1782), (0x1784, 0x1787), (0x1789, 0x178c), (0x178e, 0x1793), (0x1795, 0x1798),
    (0x179b, 0x179d), (0x17a0, 0x17a0), (0x17a2, 0x17a2), (0x17a7, 0x17a7), (0x17ab, 0x17ac),
    (0x17af, 0x17af)]

/-- Invisible marks that do not part a ligature. -/
def silentMarkRanges : List (Nat × Nat) :=
  [(0x34f, 0x34f), (0x17b4, 0x17b5), (0x180b, 0x180d), (0x180f, 0x180f), (0xfe00, 0xfe0f),
    (0xe0100, 0xe01ef)]

/-- The ligature that a letter may end. -/
def Ligature.of? (c : Char) : Option Ligature :=
  if inRanges alefRanges c.toNat then some alef
  else if inRanges khmerRanges c.toNat then some khmer
  else if isTifinagh c then some (tifinagh false)
  else if c.toNat = 0x5dc then some (lamed false)
  else if c.toNat = 0x1a10 then some (buginese false)
  else if c.toNat = 0xa4fc || c.toNat = 0xa4fd then some lisu
  else if c.toNat = 0x10c03 then some (orkhon false)
  else if c.toNat = 0x16d67 then some kiratE
  else if c.toNat = 0x16d68 then some kiratAi
  else none

/-- What a character by itself is to the one before it. -/
def After.of (c : Char) : After :=
  match Selector.of? c, Ligature.of? c with
  | some s, _ => .selector s
  | none, some l => .ligature l none
  | none, none =>
    if isFlagLetter c then .flagLetter
    else if isTone c then .tone
    else if isPicture c then .picture
    else .plain

/-- A character that does not join: its own columns, and what it is to the one before it. -/
def alone (c : Char) : Int × After := (charWidth c, .of c)

/-! ## Ligatures -/

/-- The letters with a joiner before them. -/
def Ligature.join : Ligature → Ligature
  | lamed _ => lamed true
  | buginese _ => buginese true
  | orkhon _ => orkhon true
  | tifinagh _ => tifinagh true
  | l => l

/-- A character before letters that it joins with: the columns it adds, and what they are together
to the one before them. -/
def Ligature.before? (c : Char) : Ligature → Option (Int × After)
  | alef =>
    if inRanges lamRanges c.toNat then some (0, .plain)
    else if charWidth c = 0 && !inRanges opaqueRanges c.toNat then some (0, .ligature alef none)
    else none
  | lamed true => if c.toNat = 0x5d0 then some (0, .plain) else none
  | buginese true => if c.toNat = 0x1a17 then some (0, .ligature bugineseVowel none) else none
  | bugineseVowel => if c.toNat = 0x1a15 then some (0, .plain) else none
  | khmer => if c.toNat = 0x17d2 then some (-1, .plain) else none
  | kiratE =>
    if c.toNat = 0x16d63 || c.toNat = 0x16d69 then some (0, .plain)
    else if c.toNat = 0x16d67 then some (0, .ligature kiratAi none)
    else if c.toNat = 0x16d68 then some (1, .ligature kiratE none)
    else none
  | kiratAi => if c.toNat = 0x16d63 then some (0, .plain) else none
  | lisu => if 0xa4f8 ≤ c.toNat && c.toNat ≤ 0xa4fb then some (0, .plain) else none
  | orkhon true => if c.toNat = 0x10c32 then some (0, .plain) else none
  | tifinagh joined =>
    if c.toNat = 0x2d7f then some (1, .ligature tifinaghJoiner none)
    else if joined && isTifinagh c then some (0, .plain)
    else none
  | tifinaghJoiner => if isTifinagh c then some (-1, .plain) else none
  | _ => none

/-- A character before letters, with invisible marks between them passed over; an alef bears marks
only. -/
def Ligature.step? (l : Ligature) (c : Char) : Option (Int × After) :=
  if l ≠ alef && c = joiner then some (0, .ligature l.join none)
  else if l ≠ alef && inRanges silentMarkRanges c.toNat then some (0, .ligature l none)
  else l.before? c

/-! ## Emoji -/

/-- A character before a joined picture. -/
def beforeJoined? (c : Char) : Option (Int × After) :=
  if c = '\u20e3' then some (0, .joinedPicture true false)
  else if isFlagLetter c then some (1, .joinedFlagLetter)
  else if isTone c then some (0, .tone)
  else if c.toNat = 0xe007f then some (0, .tagEnd 0)
  else if isPicture c then some (0, .picture)
  else none

/-- Whether a character is a digit of a tag. -/
def isTagDigit (c : Char) : Bool := 0xe0030 ≤ c.toNat && c.toNat ≤ 0xe0039

/-- Whether a character is a letter of a tag. -/
def isTagLetter (c : Char) : Bool := 0xe0061 ≤ c.toNat && c.toNat ≤ 0xe007a

/-- A character before an emoji sequence that it belongs to.  The flag of a region is a black flag,
a tag of three digits and up to four letters or of three to six letters, and the end of the tag. -/
def pictureStep? (c : Char) : After → Option (Int × After)
  | .picture | .tone | .flagLetters | .joinedFlags _ =>
    if c = joiner then some (0, .joinedPicture false false) else none
  | .joinedPicture false false => beforeJoined? c
  | .tagEnd letters =>
    if isTagLetter c && letters < 6 then some (0, .tagEnd (letters + 1))
    else if isTagDigit c && letters < 5 then some (0, .tagDigits 1)
    else if c.toNat = 0x1f3f4 && 3 ≤ letters then some (0, .picture)
    else none
  | .tagDigits digits =>
    if isTagDigit c && digits < 3 then some (0, .tagDigits (digits + 1))
    else if c.toNat = 0x1f3f4 && digits = 3 then some (0, .picture)
    else none
  | _ => none

/-- A character before the letters of a flag or before a skin tone.  Letters of joined flags count
by pairs: a third one shows that the pair counted so far was another one. -/
def flagStep? (c : Char) : After → Option (Int × After)
  | .tone => if inRanges toneBaseRanges c.toNat then some (0, .picture) else none
  | .flagLetter | .flagLetters => if isFlagLetter c then some (1, .flagLetters) else none
  | .joinedFlagLetter | .joinedFlags true =>
    if isFlagLetter c then some (-1, .joinedFlags false) else none
  | .joinedFlags false => if isFlagLetter c then some (3, .joinedFlags true) else none
  | _ => none

/-! ## Texts -/

namespace After

/-- The selector in force. -/
def selector? : After → Option Selector
  | selector s => some s
  | ligature _ s => s
  | joinedPicture _ true => some .emojiStyle
  | _ => none

/-- What is left when the selector has not been obeyed: letters alone survive it. -/
def withoutSelector : After → After
  | selector _ => plain
  | ligature l _ => ligature l none
  | joinedPicture _ true => plain
  | a => a

/-- What stands after a character with a selector in between.  Letters still join across it, and so
does a joined picture across its first emoji selector. -/
def select (s : Selector) : After → After
  | ligature l _ => ligature l (some s)
  | joinedPicture keycap false =>
    if s = .emojiStyle then joinedPicture keycap true else selector s
  | _ => selector s

end After

/-- A character that obeys the selector after it. -/
def selected? (c : Char) (after : After) : Option (Int × After) :=
  match after.selector? with
  | some .emojiStyle =>
    if inRanges emojiStyleRanges c.toNat then
      some (if after matches .joinedPicture _ _ then 0 else 2, .picture)
    else none
  | some .textStyle => if inRanges textStyleRanges c.toNat then some (1, .plain) else none
  | some .fullWidth => if isCurvedQuote c then some (2, .plain) else none
  | none => none

/-- A character that joins with what stands after it. -/
def joined? (c : Char) : After → Option (Int × After)
  | .ligature l _ => l.step? c
  | after => (flagStep? c after).orElse fun _ => pictureStep? c after

/-- One character before what has been counted: the columns it adds, and what stands there now to
the one before it.  A carriage return before a line feed takes none. -/
def step (c : Char) (after : After) : Int × After :=
  match selected? c after with
  | some found => found
  | none =>
    if c = '\n' then (1, .lineFeed)
    else if c.toNat ≤ 0xa0 then (if c = '\r' && after = .lineFeed then 0 else 1, .plain)
    else
      match Selector.of? c with
      | some s => (0, after.select s)
      | none => (joined? c after.withoutSelector).getD (alone c)

/-- The number of columns that a text takes on a terminal. -/
def displayWidth (cs : List Char) : Nat :=
  (cs.foldr (fun c found =>
    let (n, after) := step c found.2
    (found.1 + n, after)) ((0 : Int), After.plain)).1.toNat

end ScatterGather.Text
