/-!
# Percent encoding

Inside a URL the bytes of a character that a part of it may not hold are written as `%` and two
hexadecimal digits. Each part has its own set of such characters; control characters and all that is
not ASCII are in every set.
-/

namespace ClusterBoard.Web.Percent

/-- A hexadecimal digit, in upper case. -/
def hexDigit (n : Nat) : Char := (Nat.digitChar n).toUpper

/-- A byte as `%` and two digits. -/
def encodeByte (b : UInt8) : List Char := ['%', hexDigit (b.toNat / 16), hexDigit (b.toNat % 16)]

/-- Control characters and all that is not ASCII. -/
def isControl (c : Char) : Bool := c.toNat < 0x20 || 0x7E < c.toNat

/-- Whether a character is one of a list. -/
def isIn (cs : String) (c : Char) : Bool := cs.toList.contains c

/-- What a fragment may not hold. -/
def fragmentSet (c : Char) : Bool := isControl c || isIn " \"<>`" c

/-- What a path may not hold. -/
def pathSet (c : Char) : Bool := fragmentSet c || isIn "#?\x7b\x7d" c

/-- What a single segment may not hold. -/
def segmentSet (c : Char) : Bool := pathSet c || isIn "/%" c

/-- What a single segment may not hold where a backslash separates segments. -/
def specialSegmentSet (c : Char) : Bool := segmentSet c || c == '\\'

/-- What a user name or a password may not hold. -/
def userinfoSet (c : Char) : Bool := pathSet c || isIn "/:;=@[\\]^|" c

/-- What a query may not hold. -/
def querySet (c : Char) : Bool := isControl c || isIn " \"#<>" c

/-- What the query of a web address may not hold. -/
def specialQuerySet (c : Char) : Bool := querySet c || c == '\''

/-- A character, encoded if it is in the set. -/
def encodeChar (inSet : Char → Bool) (c : Char) : List Char :=
  if inSet c then (String.utf8EncodeChar c).flatMap encodeByte else [c]

/-- A text with the characters of the set encoded. -/
def encode (inSet : Char → Bool) (cs : List Char) : List Char := cs.flatMap (encodeChar inSet)

/-- The value of a hexadecimal digit. -/
def hexValue? (c : Char) : Option Nat :=
  if c.isDigit then some (c.toNat - '0'.toNat)
  else if 'a' ≤ c ∧ c ≤ 'f' then some (c.toNat - 'a'.toNat + 10)
  else if 'A' ≤ c ∧ c ≤ 'F' then some (c.toNat - 'A'.toNat + 10)
  else none

/-- The bytes of a text, encoded ones decoded. A `%` without two digits stands for itself. -/
def decode : List Char → List UInt8
  | [] => []
  | '%' :: a :: b :: rest =>
    match hexValue? a, hexValue? b with
    | some m, some n => UInt8.ofNat (16 * m + n) :: decode rest
    | _, _ => 0x25 :: decode (a :: b :: rest)
  | c :: rest => String.utf8EncodeChar c ++ decode rest

/-- The text of bytes that are valid UTF-8. -/
def text? (bytes : List UInt8) : Option (List Char) :=
  (String.fromUTF8? (ByteArray.mk bytes.toArray)).map String.toList

end ClusterBoard.Web.Percent
