import ChannelKeeper.Text.Chars
import ChannelKeeper.Url.Percent

/-!
# Forms in queries

Pairs of names and values as they stand in a query: a blank is a plus sign, and
all but letters, digits and `*-._` is encoded.
-/

namespace ChannelKeeper.Url.Form

def keepsInForm (n : Nat) : Bool :=
  (48 ≤ n && n ≤ 57) || (65 ≤ n && n ≤ 90) || (97 ≤ n && n ≤ 122) || n == 42 || n == 45 ||
    n == 46 || n == 95

def encodeOctet (n : Nat) : List Char :=
  if n = 0x20 then ['+'] else if keepsInForm n then [Char.ofNat n] else percentOctet n

def encode (s : String) : List Char := (Text.Utf8.encode s.toList).flatMap encodeOctet

def encodePair (name value : String) : List Char := encode name ++ '=' :: encode value

def decode (s : List Char) : String :=
  let spaced := s.map fun c => if c = '+' then ' ' else c
  Text.Utf8.decodeLossy (percentDecode spaced)

/-- The pairs of a query; a piece without an equals sign is a name without value. -/
def parse (query : List Char) : List (String × String) :=
  let pieces := (Text.Chars.splitOn '&' query).filter (!·.isEmpty)
  pieces.map fun piece =>
    match Text.Chars.splitOnce '=' piece with
    | some (name, value) => (decode name, decode value)
    | none => (decode piece, "")

end ChannelKeeper.Url.Form
