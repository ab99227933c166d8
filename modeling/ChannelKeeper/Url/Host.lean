import ChannelKeeper.Text.Lowercase
import ChannelKeeper.Url.Percent
import ChannelKeeper.Url.Punycode

/-!
# Hosts

A host is a name or an address. The common web schemes read names as domains, in
lower case and in ASCII, and numbers as addresses; every other scheme takes a
name as it is, encodes what it has to and refuses the characters that would end
a host.
-/

namespace ChannelKeeper.Url

inductive Fault where
  | emptyHost
  | invalidDomain
  | invalidPort
  | invalidIpv4
  | invalidIpv6
  | invalidCharacter
  | relative
deriving DecidableEq, Repr

def Fault.message : Fault → String
  | .emptyHost => "empty host"
  | .invalidDomain => "invalid international domain name"
  | .invalidPort => "invalid port number"
  | .invalidIpv4 => "invalid IPv4 address"
  | .invalidIpv6 => "invalid IPv6 address"
  | .invalidCharacter => "invalid domain character"
  | .relative => "relative URL without a base"

inductive Host where
  | domain (name : String)
  | ipv4 (address : Nat)
  | ipv6 (pieces : List Nat)
deriving DecidableEq, Repr

namespace Host

-- ---------------------------------------------------------------------------
-- Addresses of 32 bits
-- ---------------------------------------------------------------------------

def digitsIn (base : Nat) (s : List Char) : Option Nat :=
  s.foldlM (fun n c => do
    let d ← hexValue? c.toNat
    if d < base then some (n * base + d) else none) 0

/-- A part of an address: decimal, octal after `0`, hexadecimal after `0x`. -/
def numberPart : List Char → Option Nat
  | [] => none
  | '0' :: 'x' :: rest => digitsIn 16 rest
  | '0' :: 'X' :: rest => digitsIn 16 rest
  | ['0'] => some 0
  | '0' :: rest => digitsIn 8 rest
  | s => digitsIn 10 s

/-- A name whose last part is a number has to be an address. -/
def endsInNumber (name : List Char) : Bool :=
  let parts := Text.Chars.splitOn '.' name
  let parts := if parts.getLast? = some [] ∧ 1 < parts.length then parts.dropLast else parts
  match parts.getLast? with
  | none | some [] => false
  | some last =>
    last.all Char.isDigit ||
      ((['0', 'x'].isPrefixOf last || ['0', 'X'].isPrefixOf last) && (numberPart last).isSome)

/-- Up to four parts; the last one fills the octets that are left. -/
def parseIpv4 (name : List Char) : Except Fault Host :=
  let parts := Text.Chars.splitOn '.' name
  let parts := if parts.getLast? = some [] ∧ 1 < parts.length then parts.dropLast else parts
  if 4 < parts.length then .error .invalidIpv4
  else
    match parts.mapM numberPart with
    | none => .error .invalidIpv4
    | some numbers =>
      let leading := numbers.dropLast
      let last := numbers.getLast?.getD 0
      if leading.any (255 < ·) ∨ Nat.pow 256 (5 - numbers.length) ≤ last then .error .invalidIpv4
      else
        let high := leading.zipIdx.foldl (fun sum (n, i) => sum + n * Nat.pow 256 (3 - i)) 0
        .ok (.ipv4 (high + last))

def ipv4Text (address : Nat) : String :=
  Text.join "." ([16777216, 65536, 256, 1].map fun unit => toString (address / unit % 256))

-- ---------------------------------------------------------------------------
-- Addresses of 128 bits
-- ---------------------------------------------------------------------------

/-- A decimal part of at most 255 without leading zeros. -/
def octetPart (s : List Char) : Option Nat :=
  if s.isEmpty || 3 < s.length || (1 < s.length && s.head? == some '0') then none
  else (digitsIn 10 s).bind fun n => if n ≤ 255 then some n else none

/-- The two pieces of an address of 32 bits at the end. -/
def embeddedIpv4 (s : List Char) : Option (List Nat) := do
  let parts ← (Text.Chars.splitOn '.' s).mapM octetPart
  match parts with
  | [a, b, c, d] => some [a * 256 + b, c * 256 + d]
  | _ => none

def hexPiece (s : List Char) : Option Nat :=
  if s.isEmpty || 4 < s.length then none else digitsIn 16 s

/-- Pieces separated by colons, the last one possibly of 32 bits. -/
def pieceList : List (List Char) → Option (List Nat)
  | [] => some []
  | [last] => if last.contains '.' then embeddedIpv4 last else (hexPiece last).map ([·])
  | piece :: rest => do
    let n ← hexPiece piece
    let ns ← pieceList rest
    return n :: ns

def piecesOf (s : List Char) : Option (List Nat) :=
  if s.isEmpty then some [] else pieceList (Text.Chars.splitOn ':' s)

/-- What stands around the first `::`. -/
def aroundGap : List Char → Option (List Char × List Char)
  | ':' :: ':' :: rest => some ([], rest)
  | c :: rest => (aroundGap rest).map fun (before, after) => (c :: before, after)
  | [] => none

def parseIpv6 (s : List Char) : Except Fault Host :=
  let pieces : Option (List Nat) :=
    match aroundGap s with
    | none => (piecesOf s).bind fun ns => if ns.length = 8 then some ns else none
    | some (before, after) => do
      if before.contains '.' then none
      let front ← piecesOf before
      let back ← piecesOf after
      if front.length + back.length ≤ 7 then
        some (front ++ List.replicate (8 - front.length - back.length) 0 ++ back)
      else none
  match pieces with
  | some ns => .ok (.ipv6 ns)
  | none => .error .invalidIpv6

/-- Length of the run of zeros at the front. -/
def zeroRun (ns : List Nat) : Nat := (ns.takeWhile (· == 0)).length

/-- Start and length of the first longest run of at least two zeros. -/
def longestGap (ns : List Nat) : Option (Nat × Nat) :=
  let runs := (List.range ns.length).map fun i => (i, zeroRun (ns.drop i))
  let best := runs.foldl (fun (b : Nat × Nat) r => if b.2 < r.2 then r else b) (0, 0)
  if 2 ≤ best.2 then some best else none

def hexText (n : Nat) : String := String.ofList (Nat.toDigits 16 n)

def ipv6Text (ns : List Nat) : String :=
  let part (xs : List Nat) := Text.join ":" (xs.map hexText)
  match longestGap ns with
  | none => part ns
  | some (start, length) => part (ns.take start) ++ "::" ++ part (ns.drop (start + length))

def text : Host → String
  | .domain name => name
  | .ipv4 address => ipv4Text address
  | .ipv6 pieces => "[" ++ ipv6Text pieces ++ "]"

-- ---------------------------------------------------------------------------
-- Names
-- ---------------------------------------------------------------------------

def endsHost (c : Char) : Bool :=
  let n := c.toNat
  n == 0 || c == '\t' || c == '\n' || c == '\r' || c == ' ' || c == '#' || c == '/' || c == ':' ||
    c == '<' || c == '>' || c == '?' || c == '@' || c == '[' || c == '\\' || c == ']' ||
    c == '^' || c == '|'

def notInDomain (c : Char) : Bool := endsHost c || isControl c || c == '%'

def bracketed? (s : List Char) : Option (Except Fault Host) :=
  match s with
  | '[' :: rest =>
    if rest.getLast? = some ']' then some (parseIpv6 rest.dropLast) else some (.error .invalidIpv6)
  | _ => none

/-- The host of a scheme that is not one of the common web schemes. -/
def parsePlain (s : List Char) : Except Fault Host :=
  match bracketed? s with
  | some result => result
  | none =>
    if s.any endsHost then .error .invalidCharacter
    else .ok (.domain (String.ofList (percentEncode isControl s)))

def asciiLabel (label : List Char) : List Char :=
  if label.all (·.toNat < 0x80) then label else "xn--".toList ++ Punycode.encode label

/-- A domain in lower case, with labels beyond ASCII encoded. -/
def toAscii (s : List Char) : List Char :=
  let lower := Text.lowerFrom [] s
  Text.Chars.joinWith ['.'] ((Text.Chars.splitOn '.' lower).map asciiLabel)

/-- The host of one of the common web schemes. -/
def parseDomain (s : List Char) : Except Fault Host :=
  match bracketed? s with
  | some result => result
  | none =>
    match Text.Utf8.decode? (percentDecode s) with
    | none => .error .invalidDomain
    | some decoded =>
      let name := toAscii decoded.toList
      if name.any notInDomain then .error .invalidDomain
      else if name.isEmpty then .error .emptyHost
      else if endsInNumber name then parseIpv4 name
      else .ok (.domain (String.ofList name))

end Host

end ChannelKeeper.Url
