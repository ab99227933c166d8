import ChannelKeeper.Decimal.Binary64
import ChannelKeeper.Toml.Value

/-!
# TOML scalars

Strings in four spellings, numbers and dates. A reader takes the characters that
are left and gives what it read and the rest.
-/

namespace ChannelKeeper.Toml

-- ---------------------------------------------------------------------------
-- Characters
-- ---------------------------------------------------------------------------

def isSpace (c : Char) : Bool := c == ' ' || c == '\t'

def skipSpace (s : List Char) : List Char := s.dropWhile isSpace

/-- Everything but controls; a tab is no control here. -/
def isPlain (c : Char) : Bool := c == '\t' || (0x20 ≤ c.toNat && c.toNat != 0x7F)

/-- A line ending is one or two characters. -/
def newline? : List Char → Option (List Char)
  | '\n' :: rest => some rest
  | '\r' :: '\n' :: rest => some rest
  | _ => none

def hexDigit? (c : Char) : Option Nat :=
  if '0' ≤ c ∧ c ≤ '9' then some (c.toNat - 48)
  else if 'a' ≤ c ∧ c ≤ 'f' then some (c.toNat - 87)
  else if 'A' ≤ c ∧ c ≤ 'F' then some (c.toNat - 55)
  else none

-- ---------------------------------------------------------------------------
-- Strings
-- ---------------------------------------------------------------------------

/-- The character of a number written in hexadecimal digits. -/
def codePoint? (digits : List Char) : Option Char := do
  let ns ← digits.mapM hexDigit?
  let n := ns.foldl (fun n d => n * 16 + d) 0
  if n.isValidChar then some (Char.ofNat n) else none

def simpleEscape? : Char → Option Char
  | 'b' => some '\x08'
  | 't' => some '\t'
  | 'n' => some '\n'
  | 'f' => some '\x0c'
  | 'r' => some '\r'
  | '"' => some '"'
  | '\\' => some '\\'
  | _ => none

/-- What a backslash and the following characters stand for. -/
def escape? : List Char → Option (Char × List Char)
  | 'u' :: a :: b :: c :: d :: rest => (codePoint? [a, b, c, d]).map (·, rest)
  | 'U' :: a :: b :: c :: d :: e :: f :: g :: h :: rest =>
    (codePoint? [a, b, c, d, e, f, g, h]).map (·, rest)
  | c :: rest => (simpleEscape? c).map (·, rest)
  | [] => none

/-- The rest of a string in double quotes; the fuel bounds its length. -/
def readBasic : Nat → List Char → Option (List Char × List Char)
  | 0, _ => none
  | fuel + 1, s =>
    match s with
    | [] => none
    | '"' :: rest => some ([], rest)
    | '\\' :: rest => do
      let (c, rest) ← escape? rest
      let (cs, rest) ← readBasic fuel rest
      return (c :: cs, rest)
    | c :: rest => if isPlain c then (readBasic fuel rest).map fun (cs, rest) => (c :: cs, rest) else none

/-- The rest of a string in single quotes. -/
def readLiteral : List Char → Option (List Char × List Char)
  | [] => none
  | '\'' :: rest => some ([], rest)
  | c :: rest => if isPlain c then (readLiteral rest).map fun (cs, rest) => (c :: cs, rest) else none

/-- Blanks and line endings after a backslash at the end of a line. -/
def skipFolded : List Char → List Char
  | [] => []
  | '\r' :: '\n' :: rest => skipFolded rest
  | c :: rest => if isSpace c || c == '\n' then skipFolded rest else c :: rest

/-- A run of quotes inside a text of several lines: fewer than three are text; of
three to five the last three end it. -/
def closing? (quote : Char) (s : List Char) : Option (List Char × List Char) :=
  let n := (s.takeWhile (· == quote)).length
  if n < 3 then none
  else
    let kept := min (n - 3) 2
    some (List.replicate kept quote, s.drop (kept + 3))

/-- The rest of a text of several lines; a line ending in it is one line feed. -/
def readLines (quote : Char) : Nat → List Char → Option (List Char × List Char)
  | 0, _ => none
  | fuel + 1, s =>
    match closing? quote s with
    | some found => some found
    | none =>
      match newline? s with
      | some rest => (readLines quote fuel rest).map fun (cs, rest) => ('\n' :: cs, rest)
      | none =>
        match s with
        | [] => none
        | '\\' :: rest =>
          if quote = '\'' then (readLines quote fuel rest).map fun (cs, rest) => ('\\' :: cs, rest)
          else
            match newline? (skipSpace rest) with
            | some rest => readLines quote fuel (skipFolded rest)
            | none => do
              let (c, rest) ← escape? rest
              let (cs, rest) ← readLines quote fuel rest
              return (c :: cs, rest)
        | c :: rest =>
          if isPlain c then (readLines quote fuel rest).map fun (cs, rest) => (c :: cs, rest) else none

/-- A line ending right after the opening quotes does not count. -/
def afterOpening (s : List Char) : List Char := (newline? s).getD s

/-- A string on one line, as keys may be. -/
def readQuoted (s : List Char) : Option (String × List Char) :=
  match s with
  | '"' :: rest => (readBasic rest.length.succ rest).map fun (cs, rest) => (String.ofList cs, rest)
  | '\'' :: rest => (readLiteral rest).map fun (cs, rest) => (String.ofList cs, rest)
  | _ => none

def readString (s : List Char) : Option (String × List Char) :=
  match s with
  | '"' :: '"' :: '"' :: rest =>
    (readLines '"' rest.length.succ (afterOpening rest)).map fun (cs, rest) => (String.ofList cs, rest)
  | '\'' :: '\'' :: '\'' :: rest =>
    (readLines '\'' rest.length.succ (afterOpening rest)).map fun (cs, rest) => (String.ofList cs, rest)
  | s => readQuoted s

-- ---------------------------------------------------------------------------
-- Numbers
-- ---------------------------------------------------------------------------

/-- Digits in which an underscore may stand between two of them. -/
def readDigits (isDigit : Char → Bool) : List Char → Option (List Char × List Char)
  | [] => none
  | [c] => if isDigit c then some ([c], []) else none
  | c :: d :: rest =>
    if isDigit c then
      if d = '_' then (readDigits isDigit rest).map fun (ds, rest) => (c :: ds, rest)
      else if isDigit d then (readDigits isDigit (d :: rest)).map fun (ds, rest) => (c :: ds, rest)
      else some ([c], d :: rest)
    else none

def readSign : List Char → Bool × List Char
  | '-' :: rest => (true, rest)
  | '+' :: rest => (false, rest)
  | s => (false, s)

/-- Decimal digits; a zero stands alone. -/
def readWhole : List Char → Option (List Char × List Char)
  | '0' :: rest => some (['0'], rest)
  | s => readDigits Char.isDigit s

def valueIn (base : Nat) (digits : List Char) : Nat :=
  digits.foldl (fun n c => n * base + (hexDigit? c).getD 0) 0

def maxInteger : Nat := 9223372036854775807

/-- Hexadecimal, octal and binary numbers have no sign. -/
def readBased (base : Nat) (s : List Char) : Option (Value × List Char) := do
  let (digits, rest) ← readDigits (fun c => (hexDigit? c).any (· < base)) s
  let n := valueIn base digits
  if maxInteger < n then none else some (.integer n, rest)

def readInteger (s : List Char) : Option (Value × List Char) :=
  match s with
  | '0' :: 'x' :: rest => readBased 16 rest
  | '0' :: 'o' :: rest => readBased 8 rest
  | '0' :: 'b' :: rest => readBased 2 rest
  | s => do
    let (negative, s) := readSign s
    let (digits, rest) ← readWhole s
    let n := valueIn 10 digits
    if negative then
      if maxInteger + 1 < n then none else some (.integer (-(n : Int)), rest)
    else if maxInteger < n then none else some (.integer n, rest)

def readExponent : List Char → Option (Int × List Char)
  | c :: rest =>
    if c = 'e' ∨ c = 'E' then do
      let (negative, rest) := readSign rest
      let (digits, rest) ← readDigits Char.isDigit rest
      let n : Int := valueIn 10 digits
      return (if negative then -n else n, rest)
    else none
  | [] => none

/-- The digits after a point, which are none without a point. -/
def readFraction : List Char → Option (List Char × List Char)
  | '.' :: rest => readDigits Char.isDigit rest
  | _ => none

/-- The number rounds to infinity. Its order of magnitude decides unless it is
next to that of the largest number. -/
def isTooLarge (digits : List Char) (exponent : Int) : Bool :=
  let significant := digits.dropWhile (· == '0')
  let order := (significant.length : Int) + exponent
  if significant.isEmpty || order < 308 then false
  else if 310 < order then true
  else match Binary64.ofDecimal false (valueIn 10 significant) exponent with
    | .infinite _ => true
    | .finite .. => false

/-- Either a fraction or an exponent makes a number a float. -/
def readFloat (s : List Char) : Option (Value × List Char) := do
  let (negative, s) := readSign s
  match s with
  | 'i' :: 'n' :: 'f' :: rest => return (.float, rest)
  | 'n' :: 'a' :: 'n' :: rest => return (.float, rest)
  | s =>
    let (whole, s) ← readWhole s
    let (fraction, s) ← match s with
      | '.' :: _ => readFraction s
      | c :: _ => if c = 'e' ∨ c = 'E' then some ([], s) else none
      | [] => none
    let (exponent, s) ← match s with
      | c :: _ => if c = 'e' ∨ c = 'E' then readExponent s else some (0, s)
      | [] => some (0, s)
    if isTooLarge (whole ++ fraction) (exponent - fraction.length) && !negative then none
    else return (.float, s)

-- ---------------------------------------------------------------------------
-- Dates
-- ---------------------------------------------------------------------------

/-- A number of a fixed width within bounds. -/
def readPart (width least most : Nat) (s : List Char) : Option (Nat × List Char) :=
  let digits := s.take width
  let n := valueIn 10 digits
  if digits.length = width && digits.all Char.isDigit && least ≤ n && n ≤ most then
    some (n, s.drop width)
  else none

def readMark (mark : Char) : List Char → Option (List Char)
  | [] => none
  | c :: rest => if c = mark then some rest else none

def isLeapYear (year : Nat) : Bool := year % 4 == 0 && (year % 100 != 0 || year % 400 == 0)

def daysIn (year month : Nat) : Nat :=
  if month = 2 then (if isLeapYear year then 29 else 28)
  else if [4, 6, 9, 11].contains month then 30 else 31

def readDay (s : List Char) : Option (List Char) := do
  let (year, s) ← readPart 4 0 9999 s
  let s ← readMark '-' s
  let (month, s) ← readPart 2 1 12 s
  let s ← readMark '-' s
  let (_, s) ← readPart 2 1 (daysIn year month) s
  return s

/-- A second may be the sixtieth. -/
def readTime (s : List Char) : Option (List Char) := do
  let (_, s) ← readPart 2 0 23 s
  let s ← readMark ':' s
  let (_, s) ← readPart 2 0 59 s
  let s ← readMark ':' s
  let (_, s) ← readPart 2 0 60 s
  match s with
  | '.' :: rest =>
    match rest.takeWhile Char.isDigit with
    | [] => return s
    | digits => return rest.drop digits.length
  | s => return s

def readOffset (s : List Char) : Option (List Char) :=
  match s with
  | c :: rest =>
    if c = 'Z' ∨ c = 'z' then some rest
    else if c = '+' ∨ c = '-' then do
      let (_, s) ← readPart 2 0 23 rest
      let s ← readMark ':' s
      let (_, s) ← readPart 2 0 59 s
      return s
    else none
  | [] => none

def readDate (s : List Char) : Option (Value × List Char) :=
  match readDay s with
  | some rest =>
    let timed := match rest with
      | c :: after => if c = 'T' ∨ c = 't' ∨ c = ' ' then readTime after else none
      | [] => none
    match timed with
    | some after => some (.date, (readOffset after).getD after)
    | none => some (.date, rest)
  | none => (readTime s).map (.date, ·)

end ChannelKeeper.Toml
