import ChannelKeeper.Text.Chars

/-!
# Labels beyond ASCII

A host label with characters beyond ASCII is written with the ASCII ones first
and the places of the others as numbers of variable length in base 36.
-/

namespace ChannelKeeper.Url.Punycode

def digit (n : Nat) : Char := if n < 26 then Char.ofNat (97 + n) else Char.ofNat (22 + n)

def threshold (k bias : Nat) : Nat :=
  if k ≤ bias then 1 else if bias + 26 ≤ k then 26 else k - bias

/-- Divides by 35 while the number is large; the fuel is more than it can take. -/
def reduce : Nat → Nat → Nat → Nat × Nat
  | 0, delta, k => (delta, k)
  | fuel + 1, delta, k => if 455 < delta then reduce fuel (delta / 35) (k + 36) else (delta, k)

def adapt (delta points : Nat) (isFirst : Bool) : Nat :=
  let start := if isFirst then delta / 700 else delta / 2
  let (delta, k) := reduce 64 (start + start / points) 0
  k + 36 * delta / (delta + 38)

def digits (bias : Nat) : Nat → Nat → Nat → List Char
  | 0, _, _ => []
  | fuel + 1, k, q =>
    let t := threshold k bias
    if q < t then [digit q]
    else digit (t + (q - t) % (36 - t)) :: digits bias fuel (k + 36) ((q - t) / (36 - t))

structure Progress where
  written : List Char
  delta : Nat
  bias : Nat
  handled : Nat

/-- One character of the label while the code point `n` is placed. -/
def scan (basic n : Nat) (p : Progress) (c : Char) : Progress :=
  if c.toNat < n then { p with delta := p.delta + 1 }
  else if c.toNat = n then
    { written := p.written ++ digits p.bias 64 36 p.delta
      delta := 0
      bias := adapt p.delta (p.handled + 1) (p.handled == basic)
      handled := p.handled + 1 }
  else p

/-- Places the code points in rising order; `next` is the least not yet passed. -/
def place (label : List Char) (basic : Nat) : List Nat → Nat → Progress → Progress
  | [], _, p => p
  | n :: rest, next, p =>
    let p := { p with delta := p.delta + (n - next) * (p.handled + 1) }
    let p := label.foldl (scan basic n) p
    place label basic rest (n + 1) { p with delta := p.delta + 1 }

def encode (label : List Char) : List Char :=
  let ascii := label.filter fun c => c.toNat < 0x80
  let points := ((label.map Char.toNat).filter (0x80 ≤ ·)).eraseDups.mergeSort
  let start := if ascii.isEmpty then [] else ascii ++ ['-']
  (place label ascii.length points 0x80 ⟨start, 0, 72, ascii.length⟩).written

end ChannelKeeper.Url.Punycode
