import ChannelKeeper.Decimal.Rounding

/-!
# Numbers of 53 significant bits

A finite number is `± significand · 2 ^ exponent` in its one canonical form, so
equality of values of this type tells `0.0` and `-0.0` apart and nothing else.
Arithmetic is exact on quotients of natural numbers and rounded once, to the
nearest number and to the even one at a tie. There is no value for an undefined
result: the operations here never have one.
-/

namespace ChannelKeeper

/-- The least significand of 53 bits, `2 ^ 52`. -/
abbrev leastFull : Nat := 4503599627370496

/-- The least number of 54 bits, `2 ^ 53`. -/
abbrev beyondFull : Nat := 9007199254740992

/-- The significand fills all 53 bits unless the exponent is the least one. -/
def IsCanonical (significand : Nat) (exponent : Int) : Prop :=
  significand < beyondFull ∧ -1074 ≤ exponent ∧ exponent ≤ 971 ∧
    (leastFull ≤ significand ∨ exponent = -1074)

instance (significand : Nat) (exponent : Int) : Decidable (IsCanonical significand exponent) := by
  unfold IsCanonical
  infer_instance

/-- A finite number without its sign. -/
structure Magnitude where
  significand : Nat
  exponent : Int
  canonical : IsCanonical significand exponent
deriving DecidableEq

inductive Binary64 where
  | finite (negative : Bool) (magnitude : Magnitude)
  | infinite (negative : Bool)
deriving DecidableEq

namespace Magnitude

def zero : Magnitude := ⟨0, -1074, by decide⟩

/-- The value as a quotient. -/
def toRatio (m : Magnitude) : Nat × Nat := Decimal.scaleTwo m.exponent m.significand 1

/-- The value with a sign. -/
def toRat (m : Magnitude) (negative : Bool) : Rat :=
  let (num, den) := m.toRatio
  mkRat (if negative then -num else num) den

end Magnitude

namespace Binary64

def zero : Binary64 := .finite false .zero

instance : Inhabited Binary64 := ⟨zero⟩

def isNegative : Binary64 → Bool
  | .finite negative _ | .infinite negative => negative

def negate : Binary64 → Binary64
  | .finite negative m => .finite (!negative) m
  | .infinite negative => .infinite (!negative)

def isZero : Binary64 → Bool
  | .finite _ m => m.significand == 0
  | .infinite _ => false

/-- A significand and exponent beyond the largest number stand for infinity. -/
def ofParts (negative : Bool) (significand : Nat) (exponent : Int) : Binary64 :=
  if canonical : IsCanonical significand exponent then .finite negative ⟨significand, exponent, canonical⟩
  else .infinite negative

/-- The exponent that leaves 53 bits before the point, or the least one. -/
def exponentFor (num den : Nat) : Int :=
  let guess := (num.log2 : Int) - den.log2 - 52
  let (n, d) := Decimal.scaleTwo (-guess) num den
  max (if n / d < leastFull then guess - 1 else guess) (-1074)

/-- The nearest number to `± num / den`. -/
def ofRatio (negative : Bool) (num den : Nat) : Binary64 :=
  if num = 0 then .finite negative .zero
  else
    let exponent := exponentFor num den
    let (n, d) := Decimal.scaleTwo (-exponent) num den
    let significand := Decimal.roundDiv n d
    if significand = beyondFull then ofParts negative leastFull (exponent + 1)
    else ofParts negative significand exponent

def ofNat (n : Nat) : Binary64 := ofRatio false n 1

def ofInt (n : Int) : Binary64 := ofRatio (n < 0) n.natAbs 1

/-- `significand · 10 ^ power`, rounded. -/
def ofDecimal (negative : Bool) (significand : Nat) (power : Int) : Binary64 :=
  let (num, den) := Decimal.scaleTen power significand 1
  ofRatio negative num den

/-- The sum of two numbers that are not negative. -/
def add : Binary64 → Binary64 → Binary64
  | .finite _ a, .finite _ b =>
    let (an, ad) := a.toRatio
    let (bn, bd) := b.toRatio
    ofRatio false (an * bd + bn * ad) (ad * bd)
  | _, _ => .infinite false

def mul : Binary64 → Binary64 → Binary64
  | .finite s a, .finite t b =>
    let (an, ad) := a.toRatio
    let (bn, bd) := b.toRatio
    ofRatio (s != t) (an * bn) (ad * bd)
  | a, b => .infinite (a.isNegative != b.isNegative)

/-- Division by a number that is neither zero nor infinite. -/
def div : Binary64 → Binary64 → Binary64
  | .finite s a, .finite t b =>
    let (an, ad) := a.toRatio
    let (bn, bd) := b.toRatio
    ofRatio (s != t) (an * bd) (ad * bn)
  | a, b => .infinite (a.isNegative != b.isNegative)

/-- The integer part. Infinity has none. -/
def truncate? : Binary64 → Option Int
  | .finite negative m =>
    let (num, den) := m.toRatio
    let whole : Int := (num / den : Nat)
    some (if negative then -whole else whole)
  | .infinite _ => none

end Binary64

end ChannelKeeper
