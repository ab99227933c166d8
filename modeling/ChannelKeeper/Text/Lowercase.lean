import ChannelKeeper.Text.CaseTable

/-!
# Lower case

Every letter goes to its lower-case letter. Two need more than a table: `İ`
becomes two characters, and a capital sigma at the end of a word becomes `ς`.
-/

namespace ChannelKeeper.Text

/-- The lower-case form of one character on its own. -/
def lowerChar (c : Char) : List Char :=
  let n := c.toNat
  if n < 0x80 then [c.toLower]
  else if n = 0x130 then ['i', Char.ofNat 0x307]
  else
    let run? := CaseTable.lowerRuns.find? fun (first, last, step, _) =>
      first ≤ n && n ≤ last && (n - first) % step == 0
    match run? with
    | some (first, _, _, lower) => [Char.ofNat (lower + (n - first))]
    | none => [c]

/-- Some letter comes next once marks are skipped. -/
def letterFollows : List Char → Bool
  | [] => false
  | c :: rest =>
    if CaseTable.within CaseTable.ignorable c.toNat then letterFollows rest
    else CaseTable.within CaseTable.cased c.toNat

/-- `before` holds the characters already passed, the nearest first. -/
def lowerFrom (before : List Char) : List Char → List Char
  | [] => []
  | c :: rest =>
    let lower :=
      if c.toNat = 0x3A3 then
        [Char.ofNat (if letterFollows before && !letterFollows rest then 0x3C2 else 0x3C3)]
      else lowerChar c
    lower ++ lowerFrom (c :: before) rest

def lowercase (s : String) : String := String.ofList (lowerFrom [] s.toList)

end ChannelKeeper.Text
