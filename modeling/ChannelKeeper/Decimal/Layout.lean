import ChannelKeeper.Decimal.Shortest

/-!
# How a number is written down

Two forms: positional (`1024.5`) and with an exponent (`1.5e+20`). A `Layout`
says which numbers take which form; `fixed` writes a set number of places and
rounds the exact value, a half going to the even neighbour.
-/

namespace ChannelKeeper.Decimal

/-- The choices of one written form of numbers. -/
structure Layout where
  /-- Least and greatest number of digits before the point in positional form. -/
  leastPoint : Int
  mostPoint : Int
  /-- A single digit before an exponent is followed by `.0`. -/
  alwaysPoint : Bool
  /-- Least number of digits of an exponent. -/
  exponentWidth : Nat

def zeros (n : Nat) : String := String.ofList (List.replicate n '0')

def padded (width n : Nat) : String :=
  let digits := toString n
  zeros (width - digits.length) ++ digits

/-- A decimal in positional form, with at least one place. -/
def positional (s : Scientific) : String :=
  let digits := toString s.digits
  let point : Int := digits.length + s.power
  if point ≤ 0 then "0." ++ zeros (-point).toNat ++ digits
  else if 0 ≤ s.power then digits ++ zeros s.power.toNat ++ ".0"
  else
    let whole := String.ofList (digits.toList.take point.toNat)
    let fraction := String.ofList (digits.toList.drop point.toNat)
    whole ++ "." ++ fraction

def withExponent (layout : Layout) (s : Scientific) : String :=
  let digits := toString s.digits
  let exponent : Int := digits.length + s.power - 1
  let head := String.ofList (digits.toList.take 1)
  let tail := String.ofList (digits.toList.drop 1)
  let mantissa :=
    if tail.isEmpty then (if layout.alwaysPoint then head ++ ".0" else head)
    else head ++ "." ++ tail
  let sign := if exponent < 0 then "e-" else "e+"
  mantissa ++ sign ++ padded layout.exponentWidth exponent.natAbs

def Layout.write (layout : Layout) (s : Scientific) : String :=
  if s.digits = 0 then "0.0"
  else
    let point : Int := (toString s.digits).length + s.power
    if layout.leastPoint ≤ point ∧ point ≤ layout.mostPoint then positional s
    else withExponent layout s

def fixed (places : Nat) : Binary64 → String
  | .infinite negative => if negative then "-inf" else "inf"
  | .finite negative m =>
    let (num, den) := m.toRatio
    let scaled := roundDiv (num * powerOfTen places) den
    let whole := toString (scaled / powerOfTen places)
    let text :=
      if places = 0 then whole else whole ++ "." ++ padded places (scaled % powerOfTen places)
    if negative then "-" ++ text else text

end ChannelKeeper.Decimal
