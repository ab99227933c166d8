import ChannelKeeper.Decimal.Layout
import ChannelKeeper.Text.Chars

/-!
# Amounts for people

Sizes in the largest fitting unit, counts in groups of three digits, and texts
cut to a length.
-/

namespace ChannelKeeper.Text

def inUnit (places unit n : Nat) : String :=
  Decimal.fixed places (Binary64.div (.ofNat n) (.ofNat unit))

def sizeText (n : Nat) : String :=
  if n < 1024 then toString n ++ " B"
  else if n < 1048576 then inUnit 1 1024 n ++ " KB"
  else if n < 1073741824 then inUnit 1 1048576 n ++ " MB"
  else inUnit 2 1073741824 n ++ " GB"

/-- A comma before every full group of three that has a digit in front. -/
def groupDigits : List Char → List Char
  | [] => []
  | c :: rest =>
    if rest ≠ [] ∧ rest.length % 3 = 0 then c :: ',' :: groupDigits rest else c :: groupDigits rest

def countText (n : Int) : String :=
  let digits := String.ofList (groupDigits (Nat.toDigits 10 n.natAbs))
  if n < 0 then "-" ++ digits else digits

/-- A text that is too long ends in three dots. -/
def shortened (most : Nat) (text : String) : String :=
  if text.length ≤ most then text else take (most - 3) text ++ "..."

end ChannelKeeper.Text
