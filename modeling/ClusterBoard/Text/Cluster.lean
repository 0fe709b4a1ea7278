import ClusterBoard.Text.Emoji
import ClusterBoard.Text.Mark

/-!
# Clusters

A cluster is what a reader sees as one character: a character with the marks that follow it, a
Korean syllable, consonants that are joined to one, two regional indicators that make a flag, or
several emoji joined to one. Control and format characters stand alone. `clusters` splits a text,
and `flatten_clusters` says that nothing of it is lost.
-/

namespace ClusterBoard.Text

/-- The format characters and separators that stand alone, beside the control characters. -/
def aloneRanges : Array (Nat × Nat) :=
  #[(0xAD, 0xAD), (0x61C, 0x61C), (0x180E, 0x180E), (0x200B, 0x200B), (0x200E, 0x200F),
    (0x2028, 0x202E), (0x2060, 0x206F), (0xFEFF, 0xFEFF), (0xFFF0, 0xFFFB), (0x13430, 0x1343F),
    (0x1BCA0, 0x1BCA3), (0x1D173, 0x1D17A), (0xE0000, 0xE001F), (0xE0080, 0xE00FF),
    (0xE01F0, 0xE0FFF)]

/-- The characters that stay with the one after them. -/
def leadingRanges : Array (Nat × Nat) :=
  #[(0x600, 0x605), (0x6DD, 0x6DD), (0x70F, 0x70F), (0x890, 0x891), (0x8E2, 0x8E2), (0xD4E, 0xD4E),
    (0x110BD, 0x110BD), (0x110CD, 0x110CD), (0x111C2, 0x111C3), (0x113D1, 0x113D1),
    (0x1193F, 0x1193F), (0x11941, 0x11941), (0x11A84, 0x11A89), (0x11D46, 0x11D46),
    (0x11F02, 0x11F02)]

/-- The signs that join the consonants around them. -/
def linkerRanges : Array (Nat × Nat) :=
  #[(0x94D, 0x94D), (0x9CD, 0x9CD), (0xACD, 0xACD), (0xB4D, 0xB4D), (0xC4D, 0xC4D), (0xD4D, 0xD4D),
    (0x1039, 0x1039), (0x17D2, 0x17D2), (0x1A60, 0x1A60), (0x1B44, 0x1B44), (0x1BAB, 0x1BAB),
    (0xA9C0, 0xA9C0), (0xAAF6, 0xAAF6), (0x10A3F, 0x10A3F), (0x11133, 0x11133), (0x113D0, 0x113D0),
    (0x1193E, 0x1193E), (0x11A47, 0x11A47), (0x11A99, 0x11A99), (0x11F42, 0x11F42)]

/-- The consonants that such signs join. -/
def consonantRanges : Array (Nat × Nat) :=
  #[(0x915, 0x939), (0x958, 0x95F), (0x978, 0x97F), (0x995, 0x9A8), (0x9AA, 0x9B0), (0x9B2, 0x9B2),
    (0x9B6, 0x9B9), (0x9DC, 0x9DD), (0x9DF, 0x9DF), (0x9F0, 0x9F1), (0xA95, 0xAA8), (0xAAA, 0xAB0),
    (0xAB2, 0xAB3), (0xAB5, 0xAB9), (0xAF9, 0xAF9), (0xB15, 0xB28), (0xB2A, 0xB30), (0xB32, 0xB33),
    (0xB35, 0xB39), (0xB5C, 0xB5D), (0xB5F, 0xB5F), (0xB71, 0xB71), (0xC15, 0xC28), (0xC2A, 0xC39),
    (0xC58, 0xC5A), (0xD15, 0xD3A), (0x1000, 0x102A), (0x103F, 0x103F), (0x1050, 0x1055),
    (0x105A, 0x105D), (0x1061, 0x1061), (0x1065, 0x1066), (0x106E, 0x1070), (0x1075, 0x1081),
    (0x108E, 0x108E), (0x1780, 0x17B3), (0x1A20, 0x1A54), (0x1B0B, 0x1B0C), (0x1B13, 0x1B33),
    (0x1B45, 0x1B4C), (0x1B83, 0x1BA0), (0x1BAE, 0x1BAF), (0x1BBB, 0x1BBD), (0xA989, 0xA98B),
    (0xA98F, 0xA9B2), (0xA9E0, 0xA9E4), (0xA9E7, 0xA9EF), (0xA9FA, 0xA9FE), (0xAA60, 0xAA6F),
    (0xAA71, 0xAA73), (0xAA7A, 0xAA7A), (0xAA7E, 0xAA7F), (0xAAE0, 0xAAEA), (0xABC0, 0xABDA),
    (0x10A00, 0x10A00), (0x10A10, 0x10A13), (0x10A15, 0x10A17), (0x10A19, 0x10A35),
    (0x11103, 0x11126), (0x11144, 0x11144), (0x11147, 0x11147), (0x11380, 0x11389),
    (0x1138B, 0x1138B), (0x1138E, 0x1138E), (0x11390, 0x113B5), (0x11900, 0x11906),
    (0x11909, 0x11909), (0x1190C, 0x11913), (0x11915, 0x11916), (0x11918, 0x1192F),
    (0x11A00, 0x11A00), (0x11A0B, 0x11A32), (0x11A50, 0x11A50), (0x11A5C, 0x11A83),
    (0x11F04, 0x11F10), (0x11F12, 0x11F33)]

/-- Whether a character stands alone. -/
def isAlone (c : Char) : Bool := isControl c || isIn aloneRanges c

/-- Whether a character never starts a cluster where there is one to go on. -/
def isExtender (c : Char) : Bool := isExtending c || isSkinTone c

/-- The parts of a Korean syllable. -/
inductive SyllablePart where
  | initial
  | vowel
  | final
  /-- A syllable of an initial and a vowel. -/
  | open
  /-- A syllable with a final. -/
  | closed
  deriving DecidableEq, Repr

/-- The part of a Korean syllable that a character is. Vowel signs of one other script behave as
vowels do. -/
def syllablePart? (c : Char) : Option SyllablePart :=
  let n := c.toNat
  if n < 0x1100 then none
  else if n ≤ 0x115F || (0xA960 ≤ n && n ≤ 0xA97C) then some .initial
  else if n ≤ 0x11A7 || (0xD7B0 ≤ n && n ≤ 0xD7C6) then some .vowel
  else if n ≤ 0x11FF || (0xD7CB ≤ n && n ≤ 0xD7FB) then some .final
  else if 0xAC00 ≤ n && n ≤ 0xD7A3 then some (if (n - 0xAC00) % 28 = 0 then .open else .closed)
  else if n = 0x16D63 || (0x16D67 ≤ n && n ≤ 0x16D6A) then some .vowel
  else none

/-- Whether a part of a syllable goes on with another. -/
def SyllablePart.goesOn : SyllablePart → SyllablePart → Bool
  | .initial, next => next != .final
  | .vowel, next | .open, next => next = .vowel || next = .final
  | .final, next | .closed, next => next = .final

/-- Whether a cluster, last character first, ends in a consonant and signs that join it to the
next one. -/
def awaitsConsonant (seen : List Char) : Bool :=
  let isSign (c : Char) : Bool := isExtender c && c != Char.ofNat 0x200C || c = joiner
  (seen.takeWhile isSign).any (isIn linkerRanges) &&
    ((seen.dropWhile isSign).head?.any (isIn consonantRanges))

/-- Whether a cluster, last character first, ends in a picture and a joiner. -/
def awaitsPicture : List Char → Bool
  | [] => false
  | last :: rest => last = joiner && (rest.dropWhile isExtender).head?.any isPictograph

/-- Whether a character belongs to the cluster that was begun, last character first. -/
def goesOn (seen : List Char) (c : Char) : Bool :=
  match seen with
  | [] => false
  | last :: _ =>
    if last = '\r' && c = '\n' then true
    else if last.toNat < 0x7F && c.toNat < 0x7F then false
    else if isAlone last || isAlone c then false
    else if isExtender c || c = joiner || isSpacingMark c || isIn leadingRanges last then true
    else
      match syllablePart? last, syllablePart? c with
      | some part, some next => part.goesOn next
      | _, _ =>
        (isRegional c && (seen.takeWhile isRegional).length % 2 = 1) ||
          (isPictograph c && awaitsPicture seen) ||
          (isIn consonantRanges c && awaitsConsonant seen)

/-- The clusters of a text that goes on after what was seen of a cluster, last character first. -/
def clustersFrom (seen : List Char) : List Char → List (List Char)
  | [] => [seen.reverse]
  | c :: cs =>
    if goesOn seen c then clustersFrom (c :: seen) cs else seen.reverse :: clustersFrom [c] cs

/-- The clusters of a text. -/
def clusters : List Char → List (List Char)
  | [] => []
  | c :: cs => clustersFrom [c] cs

theorem flatten_clustersFrom (seen cs : List Char) :
    (clustersFrom seen cs).flatten = seen.reverse ++ cs := by
  induction cs generalizing seen with
  | nil => simp [clustersFrom]
  | cons c cs ih =>
    rw [clustersFrom]
    split
    · simp [ih]
    · simp [ih]

/-- Clusters hold all of the text. -/
theorem flatten_clusters (cs : List Char) : (clusters cs).flatten = cs := by
  cases cs with
  | nil => rfl
  | cons c cs => simp [clusters, flatten_clustersFrom]

end ClusterBoard.Text
