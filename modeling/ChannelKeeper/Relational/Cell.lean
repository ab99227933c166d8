import ChannelKeeper.Decimal.Layout
import ChannelKeeper.Decimal.Shortest
import ChannelKeeper.Sql.Dialect

/-!
# Cells

A cell of the embedded database holds a value of its own kind whatever its column
was declared as. The declared type only gives an affinity: which kind a value is
turned into when it is stored or compared, if nothing is lost by it.
-/

namespace ChannelKeeper.Relational

inductive Datum where
  | null
  | integer (n : Int)
  | real (x : Binary64)
  | text (s : String)
deriving DecidableEq

inductive Affinity where
  | text
  | integer
  | numeric
  | real
  | none
deriving DecidableEq, Repr

/-- The affinity of a declared type: the first of these words in it decides. -/
def Affinity.ofType (declared : String) : Affinity :=
  let letters := String.ofList (declared.toList.map Char.toUpper)
  let has (word : String) := Text.occursIn word letters
  if has "INT" then .integer
  else if has "CHAR" || has "CLOB" || has "TEXT" then .text
  else if has "BLOB" || declared.isEmpty then .none
  else if has "REAL" || has "FLOA" || has "DOUB" then .real
  else .numeric

-- ---------------------------------------------------------------------------
-- Numbers in texts
-- ---------------------------------------------------------------------------

def minInteger : Int := -9223372036854775808

def maxInteger : Int := 9223372036854775807

def isSpace (c : Char) : Bool := c == ' ' || (9 ≤ c.toNat && c.toNat ≤ 13)

def digitsValue (digits : List Char) : Nat := digits.foldl (fun n c => n * 10 + (c.toNat - 48)) 0

/-- The longest number at the start of a text. -/
structure Scan where
  negative : Bool
  whole : List Char
  fraction : List Char
  exponent : Int
  /-- There are neither point nor exponent. -/
  isWhole : Bool
  rest : List Char

def scanSign : List Char → Bool × List Char
  | '-' :: rest => (true, rest)
  | '+' :: rest => (false, rest)
  | s => (false, s)

/-- An exponent counts only if it has digits. -/
def scanExponent (s : List Char) : Option (Int × List Char) :=
  match s with
  | c :: rest =>
    if c = 'e' ∨ c = 'E' then
      let (negative, rest) := scanSign rest
      match rest.takeWhile Char.isDigit with
      | [] => none
      | digits =>
        let n : Int := digitsValue digits
        some (if negative then -n else n, rest.drop digits.length)
    else none
  | [] => none

/-- Reads a number after blanks; there need not be any digit. -/
def Scan.ofChars (s : List Char) : Scan :=
  let (negative, s) := scanSign (s.dropWhile isSpace)
  let whole := s.takeWhile Char.isDigit
  let s := s.drop whole.length
  let (hasPoint, fraction, s) : Bool × List Char × List Char := match s with
    | '.' :: rest =>
      let digits := rest.takeWhile Char.isDigit
      (true, digits, rest.drop digits.length)
    | s => (false, [], s)
  if whole.isEmpty && fraction.isEmpty then ⟨negative, [], [], 0, true, s⟩
  else match scanExponent s with
    | some (exponent, rest) => ⟨negative, whole, fraction, exponent, false, rest⟩
    | none => ⟨negative, whole, fraction, 0, !hasPoint, s⟩

namespace Scan

def isEmpty (n : Scan) : Bool := n.whole.isEmpty && n.fraction.isEmpty

/-- The text is one number and blanks. -/
def isComplete (n : Scan) : Bool := !n.isEmpty && n.rest.all isSpace

/-- Beyond 400 places a power of ten makes zero or infinity anyway. -/
def toReal (n : Scan) : Binary64 :=
  let digits := n.whole ++ n.fraction
  let significant := digits.dropWhile (· == '0')
  let power := n.exponent - n.fraction.length
  let order := (significant.length : Int) + power
  if n.isEmpty then .zero
  else if significant.isEmpty || order < -400 then .finite n.negative .zero
  else if 400 < order then .infinite n.negative
  else .ofDecimal n.negative (digitsValue significant) power

def toInteger (n : Scan) : Int :=
  let value : Int := digitsValue n.whole
  if n.negative then -value else value

end Scan

def fitsInteger (n : Int) : Bool := minInteger ≤ n && n ≤ maxInteger

/-- An integer, if the real is one strictly between the least and the greatest. -/
def Datum.ofReal (x : Binary64) : Datum :=
  match x.truncate? with
  | some n =>
    if minInteger < n && n < maxInteger && (Binary64.ofInt n == x || x.isZero) then .integer n else .real x
  | none => .real x

/-- What a text becomes where a number is preferred. -/
def Datum.preferNumber (s : String) : Datum :=
  let n := Scan.ofChars s.toList
  if !n.isComplete then .text s
  else if n.isWhole && fitsInteger n.toInteger then .integer n.toInteger
  else .ofReal n.toReal

/-- Reals are written with fifteen significant digits. -/
def realLayout : Decimal.Layout := ⟨-3, 15, true, 2⟩

namespace Datum

def realText : Binary64 → String
  | .infinite negative => if negative then "-Inf" else "Inf"
  | .finite negative m =>
    let text := realLayout.write (Decimal.nearest 15 m)
    if negative && m.significand != 0 then "-" ++ text else text

/-- What is stored of a value in a column of an affinity. -/
def store (affinity : Affinity) (d : Datum) : Datum :=
  match affinity, d with
  | .text, .integer n => .text (toString n)
  | .text, .real x => .text (realText x)
  | .integer, .text s | .numeric, .text s => preferNumber s
  | .integer, .real x | .numeric, .real x => ofReal x
  | .real, .text s =>
    match preferNumber s with
    | .integer n => .real (.ofInt n)
    | d => d
  | .real, .integer n => .real (.ofInt n)
  | .real, .real x => if x.isZero then .real .zero else .real x
  | _, d => d

/-- An equality that holds of no null. Numbers are compared by value. -/
def equals : Datum → Datum → Bool
  | .integer a, .integer b => a == b
  | .real a, .real b => a == b || (a.isZero && b.isZero)
  | .integer a, .real b | .real b, .integer a => ofReal b == .integer a
  | .text a, .text b => a == b
  | _, _ => false

/-- Compares a stored value with another one, which takes the column's affinity. -/
def matchesIn (affinity : Affinity) (stored other : Datum) : Bool :=
  match affinity with
  | .none => stored.equals other
  | affinity => stored.equals (other.store affinity)

/-- Where a value stands in an order: after those of a lesser group, then by number
and by text. Integers and reals have one order, by value. -/
structure Rank where
  group : Nat
  number : Rat := 0
  text : String := ""

def rank : Datum → Rank
  | .null => ⟨0, 0, ""⟩
  | .real (.infinite true) => ⟨1, 0, ""⟩
  | .integer n => ⟨2, n, ""⟩
  | .real (.finite negative m) => ⟨2, m.toRat negative, ""⟩
  | .real (.infinite false) => ⟨3, 0, ""⟩
  | .text s => ⟨4, 0, s⟩

def Rank.atMost (a b : Rank) : Bool :=
  a.group < b.group || a.group == b.group &&
    (a.number < b.number || a.number == b.number && a.text ≤ b.text)

/-- The value as one of a kind; a text gives the number it starts with. -/
def cast (kind : Sql.ValueKind) (d : Datum) : Datum :=
  match kind, d with
  | _, .null => .null
  | .int, .real x =>
    match x.truncate? with
    | some n => .integer (max minInteger (min maxInteger n))
    | none => .integer (if x.isNegative then minInteger else maxInteger)
  | .int, .text s => .integer (max minInteger (min maxInteger (Scan.ofChars s.toList).toInteger))
  | .int, d => d
  | .float, .integer n => .real (.ofInt n)
  | .float, .text s => .real (Scan.ofChars s.toList).toReal
  | .float, d => d
  | .text, .integer n => .text (toString n)
  | .text, .real x => .text (realText x)
  | .text, d => d

end Datum

end ChannelKeeper.Relational
