import ChannelKeeper.Text.Utf8

/-!
# Percent-encoding

Which characters each part of a URL writes as `%` and two digits, and reading
them back. Characters beyond ASCII are always encoded, octet by octet; a percent
sign is never encoded on its own account, except in forms.
-/

namespace ChannelKeeper.Url

def hexUpper (n : Nat) : Char := if n < 10 then Char.ofNat (48 + n) else Char.ofNat (55 + n)

def percentOctet (n : Nat) : List Char := ['%', hexUpper (n / 16), hexUpper (n % 16)]

/-- Encodes the characters of a set and all beyond ASCII. -/
def percentEncode (inSet : Char → Bool) (s : List Char) : List Char :=
  s.flatMap fun c =>
    if inSet c || 0x80 ≤ c.toNat then (Text.Utf8.encodeChar c).flatMap percentOctet else [c]

def isControl (c : Char) : Bool := c.toNat < 0x20 || c.toNat == 0x7F

def inFragmentSet (c : Char) : Bool :=
  isControl c || c == ' ' || c == '"' || c == '<' || c == '>' || c.toNat == 0x60

def inQuerySet (c : Char) : Bool :=
  isControl c || c == ' ' || c == '"' || c == '#' || c == '<' || c == '>'

/-- The queries of the common web schemes encode an apostrophe too. -/
def inSpecialQuerySet (c : Char) : Bool := inQuerySet c || c == '\''

def inPathSet (c : Char) : Bool :=
  inFragmentSet c || c == '#' || c == '?' || c == '\x7b' || c == '\x7d'

def inUserinfoSet (c : Char) : Bool :=
  inPathSet c || c == '/' || c == ':' || c == ';' || c == '=' || c == '@' || c == '[' ||
    c == '\\' || c == ']' || c == '^' || c == '|'

def hexValue? (n : Nat) : Option Nat :=
  if 48 ≤ n ∧ n ≤ 57 then some (n - 48)
  else if 65 ≤ n ∧ n ≤ 70 then some (n - 55)
  else if 97 ≤ n ∧ n ≤ 102 then some (n - 87)
  else none

/-- Octets with every percent sign and two digits read; any other stays. -/
def percentDecodeOctets : List Nat → List Nat
  | 37 :: a :: b :: rest =>
    match hexValue? a, hexValue? b with
    | some x, some y => (x * 16 + y) :: percentDecodeOctets rest
    | _, _ => 37 :: percentDecodeOctets (a :: b :: rest)
  | n :: rest => n :: percentDecodeOctets rest
  | [] => []

def percentDecode (s : List Char) : List Nat := percentDecodeOctets (Text.Utf8.encode s)

end ChannelKeeper.Url
