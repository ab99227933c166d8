import ChannelKeeper.Decimal.Binary64

/-!
# The fewest digits that read back

Every number owns the reals that round to it: up to halfway to each neighbour,
the halfway points included when its significand is even. `shortest` gives a
decimal in that interval with as few digits as one can have, and of those the
nearest to the number itself.
-/

namespace ChannelKeeper.Decimal

/-- `digits · 10 ^ power`. -/
structure Scientific where
  digits : Nat
  power : Int
deriving DecidableEq, Repr

/-- The power of ten of the leading digit of `num / den`. -/
def leadingPower (num den : Nat) : Int :=
  let guess := (((num.log2 : Int) - den.log2) * 30103).fdiv 100000
  let atMost (p : Int) : Bool :=
    let (n, d) := scaleTen (-p) num den
    d ≤ n
  ([guess + 2, guess + 1, guess, guess - 1].find? atMost).getD (guess - 2)

/-- The same decimal without zeros at its end, up to a number of them. -/
def stripZeros : Nat → Scientific → Scientific
  | 0, s => s
  | n + 1, s =>
    if s.digits ≠ 0 ∧ s.digits % 10 = 0 then stripZeros n ⟨s.digits / 10, s.power + 1⟩ else s

/-- The reals that round to a number, in quarters of its last place. -/
structure Interval where
  low : Nat
  center : Nat
  high : Nat
  closed : Bool

/-- Below a power of two the neighbour is only half as far. -/
def Interval.ofMagnitude (m : Magnitude) : Interval :=
  let center := 4 * m.significand
  let below := if m.significand = leastFull ∧ m.exponent ≠ -1074 then 1 else 2
  ⟨center - below, center, center + 2, m.significand % 2 == 0⟩

/-- The interval contains `num / den` quarters. -/
def Interval.contains (i : Interval) (num den : Nat) : Bool :=
  if i.closed then i.low * den ≤ num && num ≤ i.high * den
  else i.low * den < num && num < i.high * den

/-- The decimal `digits · 10 ^ power` in quarters of the last place of `m`. -/
def quartersOf (m : Magnitude) (s : Scientific) : Nat × Nat :=
  let (num, den) := scaleTen s.power s.digits 1
  scaleTwo (2 - m.exponent) num den

def readsBack (m : Magnitude) (s : Scientific) : Bool :=
  let (num, den) := quartersOf m s
  (Interval.ofMagnitude m).contains num den

/-- How far the decimal is from `m`, as a quotient of quarters. -/
def distance (m : Magnitude) (s : Scientific) : Nat × Nat :=
  let (num, den) := quartersOf m s
  let center := (Interval.ofMagnitude m).center * den
  (if num ≤ center then center - num else num - center, den)

/-- The better of the two decimals around `m` on one grid, if one reads back. -/
def onGrid (m : Magnitude) (power : Int) : Option Scientific :=
  let (num, den) := m.toRatio
  let (n, d) := scaleTen (-power) num den
  let lower : Scientific := ⟨n / d, power⟩
  let upper : Scientific := ⟨n / d + 1, power⟩
  match readsBack m lower, readsBack m upper with
  | true, true =>
    let (a, _) := distance m lower
    let (b, _) := distance m upper
    if a < b ∨ (a = b ∧ lower.digits % 2 = 0) then some lower else some upper
  | true, false => some lower
  | false, true => some upper
  | false, false => none

def shortest (m : Magnitude) : Scientific :=
  if m.significand = 0 then ⟨0, 0⟩
  else
    let (num, den) := m.toRatio
    let leading := leadingPower num den
    match (List.range 17).findSome? fun n : Nat => onGrid m (leading - n) with
    | some s => stripZeros 17 s
    | none => ⟨0, 0⟩

/-- The decimal of a given number of digits nearest to `m`, and the greater of two. -/
def nearest (places : Nat) (m : Magnitude) : Scientific :=
  if m.significand = 0 then ⟨0, 0⟩
  else
    let (num, den) := m.toRatio
    let power := leadingPower num den + 1 - places
    let (n, d) := scaleTen (-power) num den
    stripZeros (places + 1) ⟨roundDivUp n d, power⟩

end ChannelKeeper.Decimal
