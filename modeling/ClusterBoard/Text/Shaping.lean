import ClusterBoard.Text.Emoji
import ClusterBoard.Text.Width

/-!
# The width of shaped text

A terminal that shapes its text shows some characters together: emoji that are joined or have a
selector, a tone of skin or a flag, and the ligatures of some scripts. The width of a text is
counted from its end: what a character adds depends on what follows it, `Ahead`.
-/

namespace ClusterBoard.Text

/-- The characters that are ignored where they have no effect. -/
def ignorableRanges : Array (Nat × Nat) :=
  #[(0xAD, 0xAD), (0x34F, 0x34F), (0x61C, 0x61C), (0x115F, 0x1160), (0x17B4, 0x17B5),
    (0x180B, 0x180F), (0x200B, 0x200F), (0x202A, 0x202E), (0x2060, 0x206F), (0x3164, 0x3164),
    (0xFE00, 0xFE0F), (0xFEFF, 0xFEFF), (0xFFA0, 0xFFA0), (0xFFF0, 0xFFF8), (0x1BCA0, 0x1BCA3),
    (0x1D173, 0x1D17A), (0xE0000, 0xE0FFF)]

/-- Signs that stand above, below or around the characters next to them. -/
def surroundingRanges : Array (Nat × Nat) :=
  #[(0x605, 0x605), (0x70F, 0x70F), (0x890, 0x891), (0x8E2, 0x8E2), (0xD4E, 0xD4E),
    (0xA8FA, 0xA8FA), (0x111C2, 0x111C3), (0x113D1, 0x113D1), (0x1193F, 0x1193F),
    (0x11941, 0x11941), (0x11A84, 0x11A89), (0x11D46, 0x11D46), (0x11F02, 0x11F02)]

/-- The vowels and final consonants of old Korean. -/
def isOldSyllablePart (c : Char) : Bool :=
  (0xD7B0 ≤ c.toNat && c.toNat ≤ 0xD7C6) || (0xD7CB ≤ c.toNat && c.toNat ≤ 0xD7FB)

/-- Wide characters that came into the standard later than those of `wideRanges`, or have become
wide since. -/
def recentWideRanges : Array (Nat × Nat) :=
  #[(0x2630, 0x2637), (0x268A, 0x268F), (0x31E4, 0x31E5), (0x4DC0, 0x4DFF), (0x18CFF, 0x18CFF),
    (0x1D300, 0x1D356), (0x1D360, 0x1D376), (0x1FA89, 0x1FA89), (0x1FA8F, 0x1FA8F),
    (0x1FABE, 0x1FABE), (0x1FAC6, 0x1FAC6), (0x1FADC, 0x1FADC), (0x1FADF, 0x1FADF),
    (0x1FAE9, 0x1FAE9)]

/-- Whether a character takes no column by itself. -/
def isBare (c : Char) : Bool :=
  (isIn ignorableRanges c || isExtending c || isSyllablePart c || isOldSyllablePart c ||
      isIn surroundingRanges c) &&
    c.toNat != 0x115F && c.toNat != 0x2D7F

/-- The columns that a character takes by itself. Control characters take one. -/
def soloWidth (c : Char) : Nat :=
  let n := c.toNat
  if n ≤ 0xA0 then 1
  else if n = 0x115F || n = 0x17A4 then 2
  else if n = 0x17D8 then 3
  else if isBare c then 0
  else if isIn wideRanges c || isIn recentWideRanges c then 2
  else 1

/-- The second characters of ligatures, some of them only after a joiner. -/
inductive Ligand where
  /-- An Arabic alef, which a lam is written together with. -/
  | alef
  /-- A Hebrew lamed, which an alef and a joiner are written together with. -/
  | lamed (joined : Bool)
  /-- A Khmer letter that is subjoined by the sign before it. -/
  | subjoined
  /-- A Buginese ya, which a vowel sign and a joiner are written together with. -/
  | ya (joined : Bool)
  /-- The same after its vowel sign. -/
  | vowelYa
  /-- A Tifinagh consonant. -/
  | tifinagh (joined : Bool)
  /-- The same after the sign that joins consonants. -/
  | tifinaghSign
  /-- One of the second tone letters of Lisu. -/
  | tone
  /-- An Old Turkic i. -/
  | orkhon (joined : Bool)
  deriving DecidableEq, Repr

/-- What follows a place of a text, as far as it counts for the width of the character before. -/
inductive Ahead where
  | plain
  | lineFeed
  | skinTone
  | regional
  | regionals
  | emoji
  /-- A joiner and an emoji. -/
  | joined
  /-- A keycap before those. -/
  | joinedKeycap
  /-- Halves of flags before a joiner and an emoji: the last one, or so many that they are even. -/
  | joinedRegional
  | joinedRegionals (isEven : Bool)
  /-- The end of a tag before a joiner and an emoji, and how many letters and digits of the tag. -/
  | tag (letters digits : Nat)
  /-- The Kirat Rai vowel sign e, and the one that is made of two of them. -/
  | vowelE
  | vowelAi
  | ligand (l : Ligand)
  deriving DecidableEq, Repr

/-- A request for one form of a character that has two. -/
inductive Form where
  | text
  | emoji
  deriving DecidableEq, Repr

namespace Ligand

/-- Whether ignorable marks may stand before the character. -/
def isTransparent : Ligand → Bool
  | .alef => false
  | _ => true

/-- The character with a joiner before it. -/
def afterJoiner : Ligand → Ligand
  | .lamed _ => .lamed true
  | .ya _ => .ya true
  | .tifinagh _ => .tifinagh true
  | .orkhon _ => .orkhon true
  | l => l

end Ligand

/-- Whether a character does not break a ligature that it stands in. -/
def isTransparent (c : Char) : Bool :=
  let n := c.toNat
  n = 0x34F || n = 0x17B4 || n = 0x17B5 || (0x180B ≤ n && n ≤ 0x180D) || n = 0x180F || n = 0x200D ||
    (0xFE00 ≤ n && n ≤ 0xFE0F) || (0xE0100 ≤ n && n ≤ 0xE01EF)

/-- The characters of no width that do not break an Arabic ligature are marks and those format
characters that take no part in joining. -/
def isTransparentMark (c : Char) : Bool :=
  let n := c.toNat
  isBare c && (isIn markRanges c || isIn recentMarkRanges c || isIn formatRanges c || n = 0xAD) &&
    !(n = 0x605 || n = 0x890 || n = 0x891 || n = 0x8E2 || n = 0x180E || n = 0x200C || n = 0x200D ||
      (0x2066 ≤ n && n ≤ 0x2069))

/-- Whether a character is a Tifinagh consonant. -/
def isTifinagh (c : Char) : Bool := (0x2D31 ≤ c.toNat && c.toNat ≤ 0x2D65) || c.toNat = 0x2D6F

/-- The lam letters. -/
def lamRanges : Array (Nat × Nat) :=
  #[(0x644, 0x644), (0x6B5, 0x6B8), (0x76A, 0x76A), (0x8A6, 0x8A6), (0x8C7, 0x8C7)]

/-- The alef letters. -/
def alefRanges : Array (Nat × Nat) :=
  #[(0x622, 0x623), (0x625, 0x625), (0x627, 0x627), (0x671, 0x673), (0x675, 0x675),
    (0x773, 0x774), (0x870, 0x882)]

/-- The Khmer letters that can be subjoined. -/
def subjoinedRanges : Array (Nat × Nat) :=
  #[(0x1780, 0x1782), (0x1784, 0x1787), (0x1789, 0x178C), (0x178E, 0x1793), (0x1795, 0x1798),
    (0x179B, 0x179D), (0x17A0, 0x17A0), (0x17A2, 0x17A2), (0x17A7, 0x17A7), (0x17AB, 0x17AC),
    (0x17AF, 0x17AF)]

/-- What a character is to the one before it. -/
def aheadOf (c : Char) : Ahead :=
  let n := c.toNat
  if n = 0x5DC then .ligand (.lamed false)
  else if isIn alefRanges c then .ligand .alef
  else if isIn subjoinedRanges c then .ligand .subjoined
  else if n = 0x1A10 then .ligand (.ya false)
  else if isTifinagh c then .ligand (.tifinagh false)
  else if n = 0xA4FC || n = 0xA4FD then .ligand .tone
  else if n = 0x10C03 then .ligand (.orkhon false)
  else if n = 0x16D67 then .vowelE
  else if n = 0x16D68 then .vowelAi
  else if isSkinTone c then .skinTone
  else if isRegional c then .regional
  else if isEmoji c then .emoji
  else .plain

/-- Whether a selector in front leaves a place as it is. -/
def Ahead.keepsForm : Ahead → Form → Bool
  | .ligand _, _ => true
  | .joined, .emoji | .joinedKeycap, .emoji => true
  | _, _ => false

/-- What is left of a place once its selector did not apply. -/
def Ahead.withoutForm : Ahead → Ahead
  | .ligand l => .ligand l
  | _ => .plain

/-- The columns that a character adds to those of a ligature's second character, and what both are
to the character before. -/
def ligature? (l : Ligand) (c : Char) : Option (Int × Ahead) :=
  let n := c.toNat
  match l with
  | .alef =>
    if isIn lamRanges c then some (0, .plain)
    else if isTransparentMark c then some (0, .ligand .alef)
    else none
  | .lamed true => if n = 0x5D0 then some (0, .plain) else none
  | .subjoined => if n = 0x17D2 then some (-1, .plain) else none
  | .ya true => if n = 0x1A17 then some (0, .ligand .vowelYa) else none
  | .vowelYa => if n = 0x1A15 then some (0, .plain) else none
  | .tifinagh joined =>
    if n = 0x2D7F then some (1, .ligand .tifinaghSign)
    else if joined && isTifinagh c then some (0, .plain)
    else none
  | .tifinaghSign => if isTifinagh c then some (-1, .plain) else none
  | .tone => if 0xA4F8 ≤ n && n ≤ 0xA4FB then some (0, .plain) else none
  | .orkhon true => if n = 0x10C32 then some (0, .plain) else none
  | .lamed false | .ya false | .orkhon false => none

/-- The columns that a character adds to those of an emoji, and what both are to the character
before. -/
def emojiSequence? (ahead : Ahead) (c : Char) : Option (Int × Ahead) :=
  let n := c.toNat
  let isLetter := 0xE0061 ≤ n && n ≤ 0xE007A
  let isDigit := 0xE0030 ≤ n && n ≤ 0xE0039
  match ahead with
  | .skinTone =>
    if isPerson c then some (0, .emoji) else if c = joiner then some (0, .joined) else none
  | .regional => if isRegional c then some (1, .regionals) else none
  | .regionals =>
    if isRegional c then some (1, .regionals)
    else if c = joiner then some (0, .joined)
    else none
  | .emoji => if c = joiner then some (0, .joined) else none
  | .joined =>
    if n = 0x20E3 then some (0, .joinedKeycap)
    else if isRegional c then some (1, .joinedRegional)
    else if isSkinTone c then some (0, .skinTone)
    else if n = 0xE007F then some (0, .tag 0 0)
    else if isEmoji c then some (0, .emoji)
    else none
  | .joinedRegional => if isRegional c then some (-1, .joinedRegionals true) else none
  | .joinedRegionals isEven =>
    if isRegional c then
      some (if isEven then (3, .joinedRegionals false) else (-1, .joinedRegionals true))
    else if c = joiner then some (0, .joined)
    else none
  | .tag letters digits =>
    if digits = 0 && letters < 6 && isLetter then some (0, .tag (letters + 1) 0)
    else if digits < 3 && letters ≤ 4 && isDigit then some (0, .tag letters (digits + 1))
    else if (digits = 3 || (digits = 0 && 3 ≤ letters)) && n = 0x1F3F4 then some (0, .emoji)
    else none
  | _ => none

/-- The columns that a character adds to those of a vowel sign of Kirat Rai, and what both are to
the character before. -/
def vowelSequence? (ahead : Ahead) (c : Char) : Option (Int × Ahead) :=
  let n := c.toNat
  match ahead with
  | .vowelE =>
    if n = 0x16D67 then some (0, .vowelAi)
    else if n = 0x16D63 || n = 0x16D69 then some (0, .plain)
    else none
  | .vowelAi => if n = 0x16D63 then some (0, .plain) else none
  | _ => none

/-- The columns that a character adds in front of a place, where no selector stands there. -/
def addedWidth (ahead : Ahead) (c : Char) : Int × Ahead :=
  let added? : Option (Int × Ahead) :=
    match ahead with
    | .ligand l =>
      if l.isTransparent && c = joiner then some (0, .ligand l.afterJoiner)
      else if l.isTransparent && isTransparent c then some (0, ahead)
      else ligature? l c
    | _ => (emojiSequence? ahead c).orElse fun _ => vowelSequence? ahead c
  added?.getD (soloWidth c, aheadOf c)

/-- The columns that a character adds in front of a place and a selector there, and what follows the
place in front of it. -/
def addedBefore (ahead : Ahead) (form : Option Form) (c : Char) : Int × Ahead × Option Form :=
  let n := c.toNat
  let select (f : Form) : Int × Ahead × Option Form :=
    (0, if ahead.keepsForm f then ahead else .plain, some f)
  if form = some .emoji && hasTwoForms c then
    (if ahead = .joined || ahead = .joinedKeycap then 0 else 2, .emoji, none)
  else
    let ahead := if form = some .emoji then ahead.withoutForm else ahead
    if n ≤ 0xA0 then
      if c = '\n' then (1, .lineFeed, none)
      else if c = '\r' && ahead = .lineFeed && form.isNone then (0, .plain, none)
      else (1, .plain, none)
    else if c = emojiSelector then select .emoji
    else if c = textSelector then select .text
    else if form = some .text && hasTwoForms c && isEmoji c && !(0x1F200 ≤ n && n ≤ 0x1F2FF) then
      (1, .plain, none)
    else
      let ahead := if form = some .text then ahead.withoutForm else ahead
      let (added, next) := addedWidth ahead c
      (added, next, none)

/-- The columns of a text and what it is to a character in front of it. -/
def measure : List Char → Int × Ahead × Option Form
  | [] => (0, .plain, none)
  | c :: cs =>
    let (sum, ahead, form) := measure cs
    let (added, next) := addedBefore ahead form c
    (sum + added, next)

/-- The columns that shaped text takes. -/
def width (cs : List Char) : Nat := (measure cs).1.toNat

end ClusterBoard.Text
