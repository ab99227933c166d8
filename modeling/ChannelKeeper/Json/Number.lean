import ChannelKeeper.Decimal.Binary64
import ChannelKeeper.Json.Document

/-!
# What a written number means

Digits without fraction and exponent are an integer while they fit 64 bits. All
else is read in short steps: the leading digits that fit 64 bits make an integer,
which is rounded to 53 bits and then scaled by a rounded power of ten, so the last
place may differ from that of the nearest number. A number beyond the largest one
is refused.
-/

namespace ChannelKeeper.Json

inductive Number where
  | int (n : Int)
  | float (x : Binary64)
deriving DecidableEq

/-- The greatest number of 64 bits. -/
def maxUnsigned : Nat := 18446744073709551615

/-- The greatest distance from zero of a signed number of 64 bits. -/
def maxNegative : Nat := 9223372036854775808

def digitValue (c : Char) : Nat := c.toNat - '0'.toNat

def naturalOf (digits : List Char) : Nat := digits.foldl (fun n c => n * 10 + digitValue c) 0

/-- Takes digits while the number fits 64 bits; the digits left over. -/
def takeFitting : Nat → List Char → Nat × List Char
  | n, [] => (n, [])
  | n, c :: rest =>
    let m := n * 10 + digitValue c
    if m ≤ maxUnsigned then takeFitting m rest else (n, c :: rest)

/-- The power of ten `10 ^ n`, rounded. -/
def powerOfTen (n : Nat) : Binary64 := .ofDecimal false 1 n

/-- Scales by a power of ten in one rounded step, after dividing by `10 ^ 308` as
often as a small exponent needs. -/
def scale (x : Binary64) : Nat → Int → Option Binary64
  | 0, _ => some .zero
  | fuel + 1, exponent =>
    if exponent.natAbs ≤ 308 then
      if 0 ≤ exponent then
        match x.mul (powerOfTen exponent.natAbs) with
        | .infinite _ => none
        | y => some y
      else some (x.div (powerOfTen exponent.natAbs))
    else if x.isZero then some x
    else if 0 ≤ exponent then none
    else scale (x.div (powerOfTen 308)) fuel (exponent + 308)

/-- The integer of the fitting digits, and the power of ten that the point and
the digits left over leave. -/
def NumberText.fitting (n : NumberText) : Nat × Int :=
  let (whole, left) := takeFitting 0 n.whole
  match n.fraction with
  | none => (whole, left.length)
  | some digits =>
    let (significand, unread) := takeFitting whole digits
    (significand, (left.length : Int) - (digits.length - unread.length : Nat))

def NumberText.exponentValue (n : NumberText) : Int :=
  match n.exponent with
  | none => 0
  | some (negative, digits) => if negative then -(naturalOf digits : Int) else naturalOf digits

def NumberText.toFloat? (n : NumberText) : Option Binary64 :=
  let (significand, power) := n.fitting
  let magnitude := scale (.ofNat significand) 4 (power + n.exponentValue)
  if n.negative then magnitude.map Binary64.negate else magnitude

/-- A minus zero is a float, so that its sign is kept. -/
def NumberText.toNumber? (n : NumberText) : Option Number :=
  let whole := naturalOf n.whole
  if n.fraction.isSome ∨ n.exponent.isSome then n.toFloat?.map .float
  else if !n.negative && whole ≤ maxUnsigned then some (.int whole)
  else if n.negative && 0 < whole && whole ≤ maxNegative then some (.int (-(whole : Int)))
  else n.toFloat?.map .float

end ChannelKeeper.Json
