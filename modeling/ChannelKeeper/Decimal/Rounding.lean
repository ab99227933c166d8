/-!
# Quotients rounded to the nearest integer

`roundDiv num den` is within half a unit of `num / den`; a quotient halfway
between two integers goes to the even one. `roundDivUp` is as near, but takes the
greater one.
-/

namespace ChannelKeeper.Decimal

def roundDiv (num den : Nat) : Nat :=
  let quotient := num / den
  let twice := 2 * (num % den)
  if den < twice then quotient + 1
  else if twice = den then quotient + quotient % 2
  else quotient

def roundDivUp (num den : Nat) : Nat := (2 * num + den) / (2 * den)

def powerOfTen (n : Nat) : Nat := Nat.pow 10 n

/-- `num / den · 10 ^ power`, as a quotient. -/
def scaleTen (power : Int) (num den : Nat) : Nat × Nat :=
  if 0 ≤ power then (num * powerOfTen power.toNat, den) else (num, den * powerOfTen (-power).toNat)

/-- `num / den · 2 ^ power`, as a quotient. -/
def scaleTwo (power : Int) (num den : Nat) : Nat × Nat :=
  if 0 ≤ power then (num * Nat.pow 2 power.toNat, den) else (num, den * Nat.pow 2 (-power).toNat)

end ChannelKeeper.Decimal
