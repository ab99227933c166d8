import ChannelKeeper.Json.Document

/-!
# Reading JSON

Each reader takes the characters that are left and gives what it read and the
rest. The grammar is strict: no comments, no leading zeros, no control
characters inside strings, nothing after the document but blanks.
-/

namespace ChannelKeeper.Json

def isSpace (c : Char) : Bool := c == ' ' || c == '\n' || c == '\t' || c == '\r'

def skipSpace (s : List Char) : List Char := s.dropWhile isSpace

def hexDigit? (c : Char) : Option Nat :=
  if '0' ≤ c ∧ c ≤ '9' then some (c.toNat - '0'.toNat)
  else if 'a' ≤ c ∧ c ≤ 'f' then some (c.toNat - 'a'.toNat + 10)
  else if 'A' ≤ c ∧ c ≤ 'F' then some (c.toNat - 'A'.toNat + 10)
  else none

def readUnit (a b c d : Char) : Option Nat := do
  let a ← hexDigit? a
  let b ← hexDigit? b
  let c ← hexDigit? c
  let d ← hexDigit? d
  return a * 0x1000 + b * 0x100 + c * 0x10 + d

def simpleEscape? : Char → Option Char
  | '"' => some '"'
  | '\\' => some '\\'
  | '/' => some '/'
  | 'b' => some '\x08'
  | 'f' => some '\x0c'
  | 'n' => some '\n'
  | 'r' => some '\r'
  | 't' => some '\t'
  | _ => none

def readString : List Char → Option (List Piece × List Char)
  | [] => none
  | '"' :: rest => some ([], rest)
  | '\\' :: 'u' :: a :: b :: c :: d :: rest => do
    let n ← readUnit a b c d
    let (pieces, rest) ← readString rest
    return (.unit n :: pieces, rest)
  | '\\' :: e :: rest => do
    let c ← simpleEscape? e
    let (pieces, rest) ← readString rest
    return (.char c :: pieces, rest)
  | c :: rest =>
    if c.toNat < 0x20 ∨ c = '\\' then none
    else (readString rest).map fun (pieces, rest) => (.char c :: pieces, rest)

def digitsOf (s : List Char) : List Char × List Char :=
  (s.takeWhile Char.isDigit, s.dropWhile Char.isDigit)

/-- At least one digit. -/
def readDigits (s : List Char) : Option (List Char × List Char) :=
  match digitsOf s with
  | ([], _) => none
  | found => some found

/-- The digits before the point: a zero stands alone. -/
def readWhole : List Char → Option (List Char × List Char)
  | '0' :: rest => if rest.head?.any Char.isDigit then none else some (['0'], rest)
  | s => readDigits s

def readFraction : List Char → Option (Option (List Char) × List Char)
  | '.' :: rest => (readDigits rest).map fun (digits, rest) => (some digits, rest)
  | s => some (none, s)

def readExponentSign : List Char → Bool × List Char
  | '+' :: rest => (false, rest)
  | '-' :: rest => (true, rest)
  | s => (false, s)

def readExponent : List Char → Option (Option (Bool × List Char) × List Char)
  | [] => some (none, [])
  | c :: rest =>
    if c = 'e' ∨ c = 'E' then
      let (negative, rest) := readExponentSign rest
      (readDigits rest).map fun (digits, rest) => (some (negative, digits), rest)
    else some (none, c :: rest)

def readNumber (s : List Char) : Option (NumberText × List Char) := do
  let (negative, s) := match s with
    | '-' :: rest => (true, rest)
    | s => (false, s)
  let (whole, s) ← readWhole s
  let (fraction, s) ← readFraction s
  let (exponent, s) ← readExponent s
  return (⟨negative, whole, fraction, exponent⟩, s)

mutual

/-- One value and the rest. The fuel bounds the number of values and of commas. -/
def readValue : Nat → List Char → Option (Document × List Char)
  | 0, _ => none
  | fuel + 1, s =>
    match skipSpace s with
    | 'n' :: 'u' :: 'l' :: 'l' :: rest => some (.null, rest)
    | 't' :: 'r' :: 'u' :: 'e' :: rest => some (.bool true, rest)
    | 'f' :: 'a' :: 'l' :: 's' :: 'e' :: rest => some (.bool false, rest)
    | '"' :: rest => (readString rest).map fun (pieces, rest) => (.string pieces, rest)
    | '[' :: rest =>
      match skipSpace rest with
      | ']' :: rest => some (.array [], rest)
      | rest => (readItems fuel rest).map fun (items, rest) => (.array items, rest)
    | '\x7b' :: rest =>
      match skipSpace rest with
      | '\x7d' :: rest => some (.object [], rest)
      | rest => (readMembers fuel rest).map fun (members, rest) => (.object members, rest)
    | s => (readNumber s).map fun (n, rest) => (.number n, rest)

def readItems : Nat → List Char → Option (List Document × List Char)
  | 0, _ => none
  | fuel + 1, s => do
    let (item, rest) ← readValue fuel s
    match skipSpace rest with
    | ',' :: rest =>
      let (items, rest) ← readItems fuel rest
      return (item :: items, rest)
    | ']' :: rest => return ([item], rest)
    | _ => none

def readMembers : Nat → List Char → Option (List (List Piece × Document) × List Char)
  | 0, _ => none
  | fuel + 1, s => do
    match skipSpace s with
    | '"' :: rest =>
      let (key, rest) ← readString rest
      match skipSpace rest with
      | ':' :: rest =>
        let (value, rest) ← readValue fuel rest
        match skipSpace rest with
        | ',' :: rest =>
          let (members, rest) ← readMembers fuel rest
          return ((key, value) :: members, rest)
        | '\x7d' :: rest => return ([(key, value)], rest)
        | _ => none
      | _ => none
    | _ => none

end

def Document.read? (text : String) : Option Document :=
  let chars := text.toList
  match readValue (2 * chars.length + 2) chars with
  | some (document, rest) => if (skipSpace rest).isEmpty then some document else none
  | none => none

end ChannelKeeper.Json
