import ClusterBoard.Web.Domain.Name

/-!
# Hosts

A host is a domain name, an address of four bytes, an address of eight pieces of sixteen bits, or a
name that is kept as it is. Domain names are in lower case and ASCII.
-/

namespace ClusterBoard.Web

/-- Why a text is not a URL. -/
inductive UrlError where
  | relativeWithoutBase
  | relativeToRootless
  | emptyHost
  | invalidPort
  | invalidIpv4
  | invalidIpv6
  | invalidDomain
  | invalidDomainCharacter
  deriving DecidableEq, Repr, Inhabited

/-- The reason in words. -/
def UrlError.message : UrlError → String
  | .relativeWithoutBase => "relative URL without a base"
  | .relativeToRootless => "relative URL with a cannot-be-a-base base"
  | .emptyHost => "empty host"
  | .invalidPort => "invalid port number"
  | .invalidIpv4 => "invalid IPv4 address"
  | .invalidIpv6 => "invalid IPv6 address"
  | .invalidDomain => "invalid international domain name"
  | .invalidDomainCharacter => "invalid domain character"

/-- The host of a URL. -/
inductive Host where
  | domain (name : String)
  | ipv4 (address : Nat)
  | ipv6 (pieces : List Nat)
  deriving DecidableEq, Repr, Inhabited

namespace Host

/-! ## Addresses of four bytes -/

/-- The value of a run of digits in a base. -/
def digitsIn? (base : Nat) (cs : List Char) : Option Nat :=
  cs.foldl (fun n c => do
    let n ← n
    let d ← Percent.hexValue? c
    if d < base then some (base * n + d) else none) (some 0)

/-- A part of an address, decimal, octal after a zero, or hexadecimal after `0x`. -/
def ipv4Part? (cs : List Char) : Option Nat :=
  match cs with
  | [] => none
  | '0' :: 'x' :: rest => digitsIn? 16 rest
  | '0' :: 'X' :: rest => digitsIn? 16 rest
  | '0' :: d :: rest => digitsIn? 8 (d :: rest)
  | cs => digitsIn? 10 cs

/-- The parts of a name, without an empty one at its end. -/
def nameParts (cs : List Char) : List (List Char) :=
  let parts := Text.splitOn '.' cs
  if 1 < parts.length ∧ parts.getLast? = some [] then parts.dropLast else parts

/-- Whether a name has to be an address of four bytes: its last part is a number. -/
def endsInNumber (cs : List Char) : Bool :=
  match (nameParts cs).getLast? with
  | none => false
  | some last => (!last.isEmpty && last.all Char.isDigit) || (ipv4Part? last).isSome

/-- The address of a list of numbers: all but the last are bytes, the last fills the rest. -/
def ipv4OfNumbers? : List Nat → Option Nat
  | [] => none
  | [last] => if last < Nat.pow 256 4 then some last else none
  | [a, last] =>
    if a < 256 ∧ last < Nat.pow 256 3 then some (a * Nat.pow 256 3 + last) else none
  | [a, b, last] =>
    if a < 256 ∧ b < 256 ∧ last < Nat.pow 256 2 then
      some ((a * 256 + b) * Nat.pow 256 2 + last)
    else none
  | [a, b, c, last] =>
    if a < 256 ∧ b < 256 ∧ c < 256 ∧ last < 256 then
      some (((a * 256 + b) * 256 + c) * 256 + last)
    else none
  | _ => none

/-- The address of a name that ends in a number. -/
def ipv4? (cs : List Char) : Option Nat :=
  ((nameParts cs).mapM ipv4Part?).bind ipv4OfNumbers?

/-- An address of four bytes. -/
def ipv4Text (address : Nat) : String :=
  let byte (i : Nat) : String := toString (address / Nat.pow 256 i % 256)
  byte 3 ++ "." ++ byte 2 ++ "." ++ byte 1 ++ "." ++ byte 0

/-! ## Addresses of eight pieces -/

/-- A piece of up to four hexadecimal digits. -/
def ipv6Piece? (cs : List Char) : Option Nat :=
  if cs.isEmpty || 4 < cs.length then none else digitsIn? 16 cs

/-- A byte in decimal, without zeros in front. -/
def ipv4Byte? (cs : List Char) : Option Nat :=
  if cs.isEmpty || 3 < cs.length || cs.any (!·.isDigit) || (1 < cs.length && cs.head? == some '0')
  then none
  else (digitsIn? 10 cs).filter (· < 256)

/-- The two pieces of an address of four bytes at the end. -/
def ipv6Tail? (cs : List Char) : Option (List Nat) :=
  match (Text.splitOn '.' cs).mapM ipv4Byte? with
  | some [a, b, c, d] => some [256 * a + b, 256 * c + d]
  | _ => none

/-- The pieces between colons; the last may be an address of four bytes. -/
def ipv6Pieces? : List (List Char) → Option (List Nat)
  | [] => some []
  | [last] => if last.contains '.' then ipv6Tail? last else (ipv6Piece? last).map ([·])
  | piece :: rest => do
    let n ← ipv6Piece? piece
    let ns ← ipv6Pieces? rest
    some (n :: ns)

/-- The pieces of one side of a double colon. -/
def ipv6Side? (cs : List Char) : Option (List Nat) :=
  if cs.isEmpty then some [] else ipv6Pieces? (Text.splitOn ':' cs)

/-- The text before and after the first double colon. -/
def splitDoubleColon : List Char → Option (List Char × List Char)
  | [] => none
  | ':' :: ':' :: rest => some ([], rest)
  | c :: rest => (splitDoubleColon rest).map fun (before, after) => (c :: before, after)

/-- The eight pieces of an address; a double colon stands for at least one zero. -/
def ipv6? (cs : List Char) : Option (List Nat) :=
  match splitDoubleColon cs with
  | none => (ipv6Side? cs).filter (·.length = 8)
  | some (before, after) => do
    if before.contains '.' then none
    else
      let left ← ipv6Side? before
      let right ← ipv6Side? after
      if left.length + right.length < 8 then
        some (left ++ List.replicate (8 - left.length - right.length) 0 ++ right)
      else none

/-- The length of the run of zeros at the start. -/
def zeroRun (pieces : List Nat) : Nat := (pieces.takeWhile (· = 0)).length

/-- The first longest run of at least two zeros: its place and its length. -/
def longestRun (pieces : List Nat) : Option (Nat × Nat) :=
  (List.range pieces.length).foldl (fun best i =>
    let n := zeroRun (pieces.drop i)
    match best with
    | none => if 2 ≤ n then some (i, n) else none
    | some (_, m) => if m < n then some (i, n) else best) none

/-- Pieces with colons between them. -/
def piecesText (pieces : List Nat) : List Char :=
  Text.joinWith [':'] (pieces.map (Nat.toDigits 16))

/-- An address of eight pieces, the longest run of zeros left out. -/
def ipv6Text (pieces : List Nat) : List Char :=
  match longestRun pieces with
  | none => piecesText pieces
  | some (i, n) => piecesText (pieces.take i) ++ [':', ':'] ++ piecesText (pieces.drop (i + n))

/-! ## Hosts of URLs -/

/-- What no name that is kept as it is may hold. -/
def forbiddenKept (c : Char) : Bool :=
  c.toNat = 0 || Percent.isIn "\t\n\r #/:<>?@[\\]^|" c

/-- The host of a web address. -/
def parse (cs : List Char) : Except UrlError Host :=
  match cs with
  | '[' :: rest =>
    if rest.getLast? = some ']' then
      match ipv6? rest.dropLast with
      | some pieces => .ok (.ipv6 pieces)
      | none => .error .invalidIpv6
    else .error .invalidIpv6
  | cs =>
    match (Percent.text? (Percent.decode cs)).bind Domain.ascii? with
    | none => .error .invalidDomain
    | some [] => .error .emptyHost
    | some name =>
      if endsInNumber name then
        match ipv4? name with
        | some address => .ok (.ipv4 address)
        | none => .error .invalidIpv4
      else .ok (.domain (String.ofList name))

/-- The host of any other URL: a name is kept as it is. -/
def parseKept (cs : List Char) : Except UrlError Host :=
  match cs with
  | '[' :: _ => parse cs
  | cs =>
    if cs.any forbiddenKept then .error .invalidDomainCharacter
    else .ok (.domain (String.ofList (Percent.encode Percent.isControl cs)))

/-- The host as it is written. -/
def text : Host → List Char
  | .domain name => name.toList
  | .ipv4 address => (ipv4Text address).toList
  | .ipv6 pieces => '[' :: ipv6Text pieces ++ [']']

end Host

end ClusterBoard.Web
