/-!
# UTF-8

Text as octets and back. A character has one encoding. Octets that encode no
character are found one maximal ill-formed piece at a time, so a reader may
refuse them or put a replacement for each piece.
-/

namespace ChannelKeeper.Text.Utf8

def encodeChar (c : Char) : List Nat :=
  let n := c.toNat
  if n < 0x80 then [n]
  else if n < 0x800 then [0xC0 + n / 0x40, 0x80 + n % 0x40]
  else if n < 0x10000 then [0xE0 + n / 0x1000, 0x80 + n / 0x40 % 0x40, 0x80 + n % 0x40]
  else
    [0xF0 + n / 0x40000, 0x80 + n / 0x1000 % 0x40, 0x80 + n / 0x40 % 0x40, 0x80 + n % 0x40]

def encode (s : List Char) : List Nat := s.flatMap encodeChar

/-- Between characters, or inside one: octets still owed, the bounds of the next
one, and the bits so far. -/
inductive State where
  | start
  | inside (owed low high bits : Nat)
deriving DecidableEq, Repr

def first (b : Nat) : List (Option Char) × State :=
  if b < 0x80 then ([some (Char.ofNat b)], .start)
  else if 0xC2 ≤ b ∧ b ≤ 0xDF then ([], .inside 1 0x80 0xBF (b - 0xC0))
  else if b = 0xE0 then ([], .inside 2 0xA0 0xBF 0)
  else if b = 0xED then ([], .inside 2 0x80 0x9F 0xD)
  else if 0xE1 ≤ b ∧ b ≤ 0xEF then ([], .inside 2 0x80 0xBF (b - 0xE0))
  else if b = 0xF0 then ([], .inside 3 0x90 0xBF 0)
  else if b = 0xF4 then ([], .inside 3 0x80 0x8F 4)
  else if 0xF1 ≤ b ∧ b ≤ 0xF3 then ([], .inside 3 0x80 0xBF (b - 0xF0))
  else ([none], .start)

/-- An octet that cannot continue a character ends an ill-formed piece and is
read anew. -/
def step (s : State) (b : Nat) : List (Option Char) × State :=
  match s with
  | .start => first b
  | .inside owed low high bits =>
    if low ≤ b ∧ b ≤ high then
      let bits := bits * 0x40 + (b - 0x80)
      if owed ≤ 1 then ([some (Char.ofNat bits)], .start)
      else ([], .inside (owed - 1) 0x80 0xBF bits)
    else
      let (found, s) := first b
      (none :: found, s)

/-- Characters, with `none` for each ill-formed piece. -/
def decodeFrom : State → List Nat → List (Option Char)
  | .start, [] => []
  | .inside .., [] => [none]
  | s, b :: rest =>
    let (found, s) := step s b
    found ++ decodeFrom s rest

def decode? (bytes : List Nat) : Option String :=
  ((decodeFrom .start bytes).mapM id).map String.ofList

/-- Text with the replacement character for every ill-formed piece. -/
def decodeLossy (bytes : List Nat) : String :=
  String.ofList ((decodeFrom .start bytes).map fun c => c.getD (Char.ofNat 0xFFFD))

end ChannelKeeper.Text.Utf8
