/-!
# JSON documents as written

A document keeps what its text says and decides nothing: numbers are digits,
strings are characters and escapes, members stand in their written order with
all repetitions. Which documents a value or a record accepts is said in
`Json.Value` and `Json.Record`; here only the grammar counts, at any depth of
nesting.
-/

namespace ChannelKeeper.Json

/-- A number by its digits: `whole` is not empty. -/
structure NumberText where
  negative : Bool
  whole : List Char
  fraction : Option (List Char)
  /-- Whether the exponent is negative, and its digits. -/
  exponent : Option (Bool × List Char)
deriving DecidableEq, Repr

/-- One character of a string, or a 16-bit unit given by number. -/
inductive Piece where
  | char (c : Char)
  | unit (n : Nat)
deriving DecidableEq, Repr

inductive Document where
  | null
  | bool (b : Bool)
  | number (n : NumberText)
  | string (s : List Piece)
  | array (items : List Document)
  | object (members : List (List Piece × Document))

/-- The text that pieces stand for. A pair of surrogate units is one character;
a surrogate unit on its own is no text. -/
def decodePieces : List Piece → Option (List Char)
  | [] => some []
  | .char c :: rest => (decodePieces rest).map (c :: ·)
  | .unit n :: rest =>
    if 0xD800 ≤ n ∧ n ≤ 0xDBFF then
      match rest with
      | .unit m :: rest =>
        if 0xDC00 ≤ m ∧ m ≤ 0xDFFF then
          let code := 0x10000 + (n - 0xD800) * 0x400 + (m - 0xDC00)
          (decodePieces rest).map (Char.ofNat code :: ·)
        else none
      | _ => none
    else if 0xDC00 ≤ n ∧ n ≤ 0xDFFF then none
    else (decodePieces rest).map (Char.ofNat n :: ·)

def decodeText (pieces : List Piece) : Option String := (decodePieces pieces).map String.ofList

end ChannelKeeper.Json
