import ChannelKeeper.Decimal.Layout
import ChannelKeeper.Json.Value

/-!
# Writing JSON

A value has a compact form without blanks and a spread form with one item to a
line, two spaces deeper at each level; an empty container is written `[]` or
`{}` in both. Members are written in the order they have.
-/

namespace ChannelKeeper.Json

/-- Numbers from `1e-5` up to `1e16` are written positionally and keep a point. -/
def numberLayout : Decimal.Layout := ⟨-4, 16, false, 1⟩

def writeFloat : Binary64 → List Char
  | .infinite _ => "null".toList
  | .finite negative m =>
    let text := (numberLayout.write (Decimal.shortest m)).toList
    if negative then '-' :: text else text

def writeNumber : Number → List Char
  | .int n => (toString n).toList
  | .float x => writeFloat x

def hexChar (n : Nat) : Char := if n < 10 then Char.ofNat (48 + n) else Char.ofNat (87 + n)

/-- A character as it stands inside a string. -/
def escapeChar (c : Char) : List Char :=
  match c with
  | '"' => ['\\', '"']
  | '\\' => ['\\', '\\']
  | '\x08' => ['\\', 'b']
  | '\x0c' => ['\\', 'f']
  | '\n' => ['\\', 'n']
  | '\r' => ['\\', 'r']
  | '\t' => ['\\', 't']
  | c =>
    if c.toNat < 0x20 then ['\\', 'u', '0', '0', hexChar (c.toNat / 16), hexChar (c.toNat % 16)]
    else [c]

def writeString (s : String) : List Char := '"' :: (s.toList.flatMap escapeChar ++ ['"'])

mutual

def writeCompact : Value → List Char
  | .null => "null".toList
  | .bool b => (if b then "true" else "false").toList
  | .number n => writeNumber n
  | .string s => writeString s
  | .array items => '[' :: (compactItems items ++ [']'])
  | .object members => '\x7b' :: (compactMembers members ++ ['\x7d'])

def compactItems : List Value → List Char
  | [] => []
  | [v] => writeCompact v
  | v :: w :: rest => writeCompact v ++ ',' :: compactItems (w :: rest)

def compactMembers : List (String × Value) → List Char
  | [] => []
  | [(name, v)] => writeString name ++ ':' :: writeCompact v
  | (name, v) :: m :: rest =>
    writeString name ++ ':' :: (writeCompact v ++ ',' :: compactMembers (m :: rest))

end

/-- A new line, indented. -/
def newLine (level : Nat) : List Char := '\n' :: List.replicate (2 * level) ' '

mutual

def writePretty (level : Nat) : Value → List Char
  | .null => "null".toList
  | .bool b => (if b then "true" else "false").toList
  | .number n => writeNumber n
  | .string s => writeString s
  | .array [] => "[]".toList
  | .array (v :: rest) => '[' :: (prettyItems (level + 1) (v :: rest) ++ newLine level ++ [']'])
  | .object [] => ['\x7b', '\x7d']
  | .object (m :: rest) =>
    '\x7b' :: (prettyMembers (level + 1) (m :: rest) ++ newLine level ++ ['\x7d'])

def prettyItems (level : Nat) : List Value → List Char
  | [] => []
  | [v] => newLine level ++ writePretty level v
  | v :: w :: rest => newLine level ++ writePretty level v ++ ',' :: prettyItems level (w :: rest)

def prettyMembers (level : Nat) : List (String × Value) → List Char
  | [] => []
  | [(name, v)] => newLine level ++ writeString name ++ ':' :: ' ' :: writePretty level v
  | (name, v) :: m :: rest =>
    newLine level ++ writeString name ++
      ':' :: ' ' :: (writePretty level v ++ ',' :: prettyMembers level (m :: rest))

end

def Value.compact (v : Value) : String := String.ofList (writeCompact v)

def Value.pretty (v : Value) : String := String.ofList (writePretty 0 v)

end ChannelKeeper.Json
